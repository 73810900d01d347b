import SqlComposer.Proofs.LaidOut
import SqlComposer.Proofs.References
import SqlComposer.Proofs.Requoting

/-!
# Names of tables

Five places of statements hold the name of a table: rows are taken from it or joined to it, written
into it, changed in it or deleted from it. All of them copy the same text between the same
surroundings; but only the places that read rows let an alias follow the name.
-/

namespace SqlComposer

open Identifier

/-! ## Clauses -/

namespace Clauses

/-- The clauses of a statement as they are written. -/
def write (w : Writer) (sub : SelectId → Binding String) : Clauses → Binding String
  | bare => w.refuse (.unknownStatement bare.kindName)
  | select s => s.write w sub
  | insert s => s.write w sub
  | update s => s.write w sub
  | delete s => s.write w sub

theorem write_eq {w : Writer} {sub : SelectId → List Piece} (c : Clauses) :
    c.write w (laidOutSelect w sub) = laidOut w sub c.layout := by
  cases c with
  | bare => exact (laidOut_refused _).symm
  | select s => exact s.write_eq
  | insert s => exact s.write_eq
  | update s => exact s.write_eq
  | delete s => exact s.write_eq

end Clauses

/-! ## Places -/

/-- A place for the name of a table, given by the other clauses of the statement. -/
inductive TablePlace where
  | source (s : Select)
  /-- A join in front of those that have been made later. -/
  | joined (s : Select) (kind : JoinKind) (terms : JoinTerms) (later : List Join)
  | inserted (s : Insert)
  | updated (s : Update)
  | deleted (s : Delete)

namespace TablePlace

/-- The clauses with a table in the place. -/
def clauses (name : Name) : TablePlace → Clauses
  | source s => .select { s with source := some (.table name) }
  | joined s kind terms later => .select { s with joins := s.joins ++ ⟨kind, name, terms⟩ :: later }
  | inserted s => .insert { s with table := some name }
  | updated s => .update { s with table := some name }
  | deleted s => .delete { s with table := some name }

/-- The words that the name stands behind. -/
def keyword : TablePlace → String
  | source _ => "FROM "
  | joined _ kind _ _ => kind.text ++ " "
  | inserted _ => "INSERT INTO "
  | updated _ => "UPDATE "
  | deleted _ => "DELETE FROM "

/-- Whether rows are read from the table, so that an alias may follow its name. -/
def isRead : TablePlace → Bool
  | source _ | joined _ _ _ _ => true
  | inserted _ | updated _ | deleted _ => false

def written (d : Dialect) (name : Name) (place : TablePlace) : String :=
  if place.isRead then d.reference name else d.identifier name

end TablePlace

/-! ## Tokens around a name -/

section Tokens

variable {w : Writer} (sub : SelectId → List Piece)

theorem tokens_unfolded_text {piece : Piece} {text : String}
    (hleaf : piece.unfolded sub = [piece]) (h : piece.tokens w = pure [.text text])
    (behind : List Piece) :
    tokens w (unfolded sub (piece :: behind)) = do
      return .text text :: (← tokens w (unfolded sub behind)) := by
  rw [tokens_unfolded_cons, hleaf, tokens_singleton, h, pure_bind]
  rfl

variable {d : Dialect} {serial : Serial} (hw : w.dialect = .dialect d serial)
  (hplain : d.hasPlainQuotes)
include hw hplain

theorem tokens_unfolded_identifier (name : Name) (behind : List Piece) :
    tokens w (unfolded sub (.identifier name :: behind)) = do
      return .text (d.identifier name) :: (← tokens w (unfolded sub behind)) :=
  tokens_unfolded_text sub rfl (Piece.tokens_identifier hw hplain name) behind

theorem tokens_unfolded_reference (name : Name) (behind : List Piece) :
    tokens w (unfolded sub (.reference name :: behind)) = do
      return .text (d.reference name) :: (← tokens w (unfolded sub behind)) :=
  tokens_unfolded_text sub rfl (Piece.tokens_reference hw hplain name) behind

/-- Between plain quotes it does not matter that the pieces behind a name are written first. -/
theorem tokens_unfolded_lateIdentifier (name : Name) (inner behind : List Piece) :
    tokens w (unfolded sub (.lateIdentifier name inner :: behind)) = do
      return .text (d.identifier name) :: (← tokens w (unfolded sub (inner ++ behind))) := by
  rw [tokens_unfolded_cons, Piece.unfolded, tokens_singleton, Piece.tokens, tokens_unfolded_append,
    Writer.identifier, Writer.name_of_plainQuotes hw hplain]
  simp only [bind_assoc, pure_bind, List.cons_append]
  rfl

end Tokens

/-! ## Statements around a name -/

section Places

variable {w : Writer}

theorem tokens_unfolded_keyword (sub : SelectId → List Piece) {front part behind : List Piece}
    {keyword text : String}
    (h : tokens w (unfolded sub part) = do
      return .text text :: (← tokens w (unfolded sub behind))) :
    tokens w (unfolded sub (front ++ .word keyword :: part)) = do
      let before ← tokens w (unfolded sub front)
      let after ← tokens w (unfolded sub behind)
      return before ++ .text keyword :: .text text :: after := by
  rw [tokens_unfolded_append, tokens_unfolded_word, h]
  simp only [bind_assoc, pure_bind]

variable {d : Dialect} {serial : Serial} (hw : w.dialect = .dialect d serial)
  (hplain : d.hasPlainQuotes)
include hw hplain

/-- In any place, the name stands behind the keyword, in between pieces that do not depend on it. -/
theorem TablePlace.tokens_clauses (place : TablePlace) :
    ∃ front behind : List Piece, ∀ (sub : SelectId → List Piece) (name : Name),
      tokens w (unfolded sub (place.clauses name).layout) = do
        let before ← tokens w (unfolded sub front)
        let after ← tokens w (unfolded sub behind)
        return before ++ .text place.keyword :: .text (place.written d name) :: after := by
  cases place with
  | source s =>
      obtain ⟨front, behind, -, hlayout⟩ := s.layout_source
      refine ⟨front, behind, fun sub name => ?_⟩
      rw [clauses, Clauses.layout, hlayout, List.append_assoc]
      exact tokens_unfolded_keyword sub (tokens_unfolded_reference sub hw hplain name behind)
  | joined s kind terms later =>
      obtain ⟨front, behind, hlayout⟩ := s.layout_join later
      refine ⟨front, .word " ON " :: terms.layout ++ behind, fun sub name => ?_⟩
      rw [clauses, Clauses.layout, hlayout, List.append_assoc]
      exact tokens_unfolded_keyword sub (tokens_unfolded_reference sub hw hplain name _)
  | inserted s =>
      let rest := s.contents ++ returningLayout s.returning
      refine ⟨[], rest.flatMap (.word " " :: ·), fun sub name => ?_⟩
      have hlayout : (clauses name (inserted s)).layout =
          [] ++ .word "INSERT INTO " :: .identifier name :: rest.flatMap (.word " " :: ·) :=
        Piece.joined_first " " _ rest
      rw [hlayout]
      exact tokens_unfolded_keyword sub (tokens_unfolded_identifier sub hw hplain name _)
  | updated s =>
      by_cases hempty : s.assignments.isEmpty
      · refine ⟨[.refused .updateWithoutAssignments], [], fun sub name => ?_⟩
        have hlayout : (clauses name (updated s)).layout = [.refused .updateWithoutAssignments] :=
          if_pos hempty
        have hfails := fails_of_endsRefused w
          (show endsRefused (unfolded sub [.refused .updateWithoutAssignments]) from rfl)
        rw [hlayout]
        exact (bind_pure _).symm.trans (hfails.bind_eq _ _)
      · let rest := ConditionClause.rows.layout s.rows ++ returningLayout s.returning
        let assigned : List Piece :=
          .word " SET " :: Piece.joined ", " (s.assignments.map assignmentLayout)
        refine ⟨[], assigned ++ rest.flatMap (.word " " :: ·), fun sub name => ?_⟩
        have hlayout : (clauses name (updated s)).layout = [] ++ .word "UPDATE " ::
            .lateIdentifier name assigned :: rest.flatMap (.word " " :: ·) :=
          (if_neg hempty).trans (Piece.joined_first " " _ rest)
        rw [hlayout]
        exact tokens_unfolded_keyword sub
          (tokens_unfolded_lateIdentifier sub hw hplain name assigned _)
  | deleted s =>
      let rest := ConditionClause.rows.layout s.rows ++ returningLayout s.returning
      refine ⟨[], rest.flatMap (.word " " :: ·), fun sub name => ?_⟩
      have hlayout : (clauses name (deleted s)).layout =
          [] ++ .word "DELETE FROM " :: .identifier name :: rest.flatMap (.word " " :: ·) :=
        Piece.joined_first " " _ rest
      rw [hlayout]
      exact tokens_unfolded_keyword sub (tokens_unfolded_identifier sub hw hplain name _)

theorem TablePlace.write_clauses (place : TablePlace) (st : Store) (nesting : List SelectId) :
    ∃ front behind : Binding String, ∀ name : Name,
      (place.clauses name).write w (st.writeSelect w nesting) = do
        return (← front) ++ place.keyword ++ place.written d name ++ (← behind) := by
  obtain ⟨front, behind, hclauses⟩ := place.tokens_clauses hw hplain
  let sub := st.selectPieces nesting
  refine ⟨laidOut w sub front, laidOut w sub behind, fun name => ?_⟩
  have hlaidOut : laidOut w sub (place.clauses name).layout =
      laidOut w sub (front ++ .word place.keyword :: .word (place.written d name) :: behind) := by
    rw [laidOut, laidOut, hclauses,
      tokens_unfolded_keyword sub (tokens_unfolded_word w sub _ behind)]
  rw [st.writeSelects_eq, Clauses.write_eq, hlaidOut]
  simp only [laidOut_append, laidOut_word, bind_assoc, pure_bind, String.append_assoc]

end Places

/-! ## Names with an alias -/

namespace Dialect

variable {d : Dialect} {s : String} {a : AliasSpelling}

theorem identifier_of_aliased (ha : a.IsValid) (hchars : a.chars = withoutLineEnd s.toList) :
    d.identifier (.plain s) = s := by
  refine identifier_copied (Bool.and_eq_false_imp.mpr fun _ => ?_)
  rw [← Bool.not_eq_true, isQuotable_iff]
  rintro ⟨segments, starred, hdotted⟩
  exact ha.not_isDotted (hchars ▸ hdotted)

theorem reference_of_not_quoting (h : ¬ d.isQuoting) (name : Name) :
    d.reference name = d.identifier name := by
  rw [reference, referenceParts, if_neg h]
  rfl

theorem HasQuotePair.reference_ne (hd : d.HasQuotePair) (hquoting : d.isQuoting) (ha : a.IsValid)
    (hchars : a.chars = withoutLineEnd s.toList) : d.reference (.plain s) ≠ s := by
  obtain ⟨c, hquotes⟩ := hd.areQuotes hquoting
  have haliased := ha.aliased? hchars.symm
  have henclosed := (isEnclosed_dotted hquotes false ha.nonempty).append
    (isEnclosed_quotedSegment hquotes a.name.word) (if a.asWord.isSome then " AS " else " ")
  rw [← reference_of_aliased hquoting ha haliased] at henclosed
  intro hsame
  rw [hsame] at henclosed
  exact henclosed.not_start (head?_of_aliased? haliased)

end Dialect

/-- Wherever a table is named, its name is one text behind the keyword, between texts that do not
depend on it. Between quotes, a path with an alias is written as the quoted path and the quoted
alias behind FROM and behind a join, but copied behind INSERT INTO, UPDATE and DELETE FROM. Any
other name is written alike in all places. -/
theorem table_names_by_place {d : Dialect} {w : Writer} {serial : Serial}
    (hw : w.dialect = .dialect d serial) (hplain : d.hasPlainQuotes) :
    (∀ (place : TablePlace) (st : Store) (nesting : List SelectId),
      ∃ front behind : Binding String, ∀ name : Name,
        (place.clauses name).write w (st.writeSelect w nesting) = do
          return (← front) ++ place.keyword ++ place.written d name ++ (← behind)) ∧
    (∀ place : TablePlace, ∃ front behind : List Piece,
      ∀ (sub : SelectId → List Piece) (name : Name),
        tokens w (unfolded sub (place.clauses name).layout) = do
          let before ← tokens w (unfolded sub front)
          let after ← tokens w (unfolded sub behind)
          return before ++ .text place.keyword :: .text (place.written d name) :: after) ∧
    ∀ s : String,
      (∃ a : AliasSpelling, d.isQuoting ∧ a.IsValid ∧ a.chars = withoutLineEnd s.toList ∧
        (∀ place : TablePlace, place.written d (.plain s) =
          if place.isRead then
            d.dotted a.segments false ++ (if a.asWord.isSome then " AS " else " ") ++
              d.quotedSegment a.name.word
          else s) ∧
        (d.HasQuotePair → ∀ place : TablePlace, place.isRead → place.written d (.plain s) ≠ s)) ∨
      ((d.isQuoting → ∀ a : AliasSpelling, a.IsValid → a.chars ≠ withoutLineEnd s.toList) ∧
        ∀ place : TablePlace, place.written d (.plain s) = d.identifier (.plain s)) := by
  refine ⟨fun place => place.write_clauses hw hplain, fun place => place.tokens_clauses hw hplain,
    fun s => ?_⟩
  by_cases haliased : d.isQuoting ∧
      ∃ a : AliasSpelling, a.IsValid ∧ a.chars = withoutLineEnd s.toList
  · obtain ⟨hquoting, a, ha, hchars⟩ := haliased
    have hreference := Dialect.reference_of_aliased hquoting ha (ha.aliased? hchars.symm)
    refine .inl ⟨a, hquoting, ha, hchars, fun place => ?_, fun hd place hread => ?_⟩
    · rw [TablePlace.written, hreference, Dialect.identifier_of_aliased ha hchars]
    · rw [TablePlace.written, if_pos hread]
      exact hd.reference_ne hquoting ha hchars
  · have hsame : d.reference (.plain s) = d.identifier (.plain s) := by
      by_cases hquoting : d.isQuoting
      · refine Dialect.reference_of_not_aliased (Option.eq_none_iff_forall_ne_some.mpr ?_)
        intro found hfound
        obtain ⟨a, ha, hchars, -⟩ := AliasSpelling.exists_of_aliased? hfound
        exact haliased ⟨hquoting, a, ha, hchars⟩
      · exact Dialect.reference_of_not_quoting hquoting _
    refine .inr ⟨fun hquoting a ha hchars => haliased ⟨hquoting, a, ha, hchars⟩, fun place => ?_⟩
    rw [TablePlace.written, hsame, ite_self]

theorem table_names_by_place_aliased :
    let d := Dialect.doubleQuoted
    let w : Writer := ⟨.dialect d 0, fun _ => pure "", fun _ => pure ""⟩
    d.hasPlainQuotes ∧
      (∀ place : TablePlace, place.written d (.plain "app.users  as u") =
        if place.isRead then "\"app\".\"users\" AS \"u\"" else "app.users  as u") ∧
      ∃ front behind : List Piece, ∀ sub name,
        tokens w (unfolded sub (Delete.layout { table := some name })) = do
          let before ← tokens w (unfolded sub front)
          let after ← tokens w (unfolded sub behind)
          return before ++ .text "DELETE FROM " :: .text (d.identifier name) :: after := by
  intro d w
  obtain ⟨-, hplaces, hnames⟩ := table_names_by_place (w := w) (d := d) rfl rfl
  let a : AliasSpelling := ⟨["app".toList, "users".toList], some ⟨"  ".toList, "as".toList⟩,
    ⟨" ".toList, "u".toList⟩⟩
  have ha : a.IsValid := by
    refine ⟨by decide, by decide, ?_, by rintro part ⟨⟩; decide, by decide⟩
    exact List.forall_mem_cons.mpr
      ⟨⟨by decide, forall_of_all (by decide), by decide, forall_of_all (by decide)⟩,
        List.forall_mem_singleton.mpr
          ⟨by decide, forall_of_all (by decide), by decide, forall_of_all (by decide)⟩⟩
  have hchars : a.chars = withoutLineEnd "app.users  as u".toList := by decide
  refine ⟨rfl, ?_, hplaces (.deleted {})⟩
  rcases hnames "app.users  as u" with ⟨b, -, hb, hbchars, hwritten, -⟩ | ⟨hnone, -⟩
  · obtain rfl := hb.eq_of_chars ha (hbchars.trans hchars.symm)
    have hspelled : d.dotted a.segments false ++ " AS " ++ d.quotedSegment a.name.word =
        "\"app\".\"users\" AS \"u\"" := by
      decide +kernel
    intro place
    rw [hwritten place]
    exact congrArg (if place.isRead then · else _) hspelled
  · exact absurd hchars (hnone rfl a ha)

/-- A SELECT from a table under an alias, and a DELETE from the same. -/
def aliasedTable : Store where
  selects := [{ source := some (.table (.plain "users u")) }]
  deletes := [{ table := some (.plain "users u") }]

/-- Two statements write one table differently. -/
theorem aliased_table_bare_in_delete :
    ∃ selected deleted after after',
      (aliasedTable.render .null (.dialect .doubleQuoted 0) (.select ⟨0⟩)).run {} =
          .ok selected after ∧
        selected.text = "SELECT * FROM \"users\" \"u\"" ∧
        (aliasedTable.render .null (.dialect .doubleQuoted 0) (.delete ⟨0⟩)).run {} =
          .ok deleted after' ∧
        deleted.text = "DELETE FROM users u" := by
  have hselect : (aliasedTable.render .null (.dialect .doubleQuoted 0) (.select ⟨0⟩)).gives {}
      fun rendered => rendered.text = "SELECT * FROM \"users\" \"u\"" := by
    decide +kernel
  have hdelete : (aliasedTable.render .null (.dialect .doubleQuoted 0) (.delete ⟨0⟩)).gives {}
      fun rendered => rendered.text = "DELETE FROM users u" := by
    decide +kernel
  obtain ⟨selected, after, hselected, htext⟩ := Writing.ok_of_gives hselect
  obtain ⟨deleted, after', hdeleted, htext'⟩ := Writing.ok_of_gives hdelete
  exact ⟨selected, deleted, after, after', hselected, of_decide_eq_true htext, hdeleted,
    of_decide_eq_true htext'⟩

end SqlComposer
