import SqlComposer.Proofs.Inversion
import SqlComposer.Proofs.Sequence
import SqlComposer.Writer.Statement

/-!
# Kinds of join

A kind of join is named by its label in any letter case, with any blanks around it and between the
words behind it, which may be OUTER and JOIN in this order. What is written for a kind is one of the
texts that it is read from.
-/

namespace SqlComposer

/-! ## Words behind a label -/

theorem dropTrailing_eq_iff {word : String} {words kept : List (List Char)} (hne : kept ≠ [])
    (hlast : kept.getLast? ≠ some word.toList) :
    dropTrailing word words = kept ↔ words = kept ∨ words = kept ++ [word.toList] := by
  unfold dropTrailing
  split
  · rename_i hdropped
    obtain ⟨-, hword⟩ := Bool.and_eq_true_iff.mp hdropped
    obtain ⟨front, rfl⟩ := List.getLast?_eq_some_iff.mp (eq_of_beq hword)
    rw [List.dropLast_concat, List.append_left_inj]
    refine ⟨.inr, fun h => h.resolve_left ?_⟩
    rintro rfl
    exact hlast List.getLast?_concat
  · rename_i hkept
    refine ⟨.inl, fun h => h.resolve_right ?_⟩
    rintro rfl
    have hlength := List.length_pos_iff.mpr hne
    refine hkept (Bool.and_eq_true_iff.mpr ⟨decide_eq_true ?_, ?_⟩)
    · rw [List.length_append, List.length_singleton]
      omega
    · rw [List.getLast?_concat]
      exact beq_self_eq_true _

namespace JoinKind

/-- The label of a kind, and behind it OUTER and JOIN, each of them if it is there. -/
def spelling (kind : JoinKind) (outer join : Bool) : List (List Char) :=
  kind.label.toList ::
    ((if outer then ["OUTER".toList] else []) ++ if join then ["JOIN".toList] else [])

/-- The words of a text in upper case. -/
def capitalWords (s : String) : List (List Char) :=
  Text.words (Text.upperChars s.toList)

def IsSpelled (kind : JoinKind) (s : String) : Prop :=
  ∃ outer join, capitalWords s = kind.spelling outer join

/-- The words spell the kind, with OUTER behind another label than INNER at most. -/
def IsUsual (kind : JoinKind) (s : String) : Prop :=
  ∃ outer join : Bool, (outer → kind ≠ .inner) ∧ capitalWords s = kind.spelling outer join

variable {kind : JoinKind} {s : String}

theorem isSpelled_iff :
    kind.IsSpelled s ↔
      kind.IsUsual s ∨ kind = .inner ∧ ∃ join, capitalWords s = kind.spelling true join := by
  constructor
  · rintro ⟨outer, join, hwords⟩
    by_cases hinner : outer ∧ kind = .inner
    · obtain ⟨rfl, hkind⟩ := hinner
      exact .inr ⟨hkind, join, hwords⟩
    · exact .inl ⟨outer, join, fun houter hkind => hinner ⟨houter, hkind⟩, hwords⟩
  · rintro (⟨outer, join, -, hwords⟩ | ⟨-, join, hwords⟩)
    · exact ⟨outer, join, hwords⟩
    · exact ⟨true, join, hwords⟩

theorem ofLabel?_eq_some_iff {label : List Char} :
    ofLabel? label = some kind ↔ label = kind.label.toList := by
  constructor
  · intro h
    have hfound := List.find?_some h
    exact (of_decide_eq_true hfound).symm
  · rintro rfl
    cases kind <;> rfl

theorem parse?_eq_some_iff : parse? s = some kind ↔ kind.IsSpelled s := by
  have hlabel : parse? s = some kind ↔
      dropTrailing "OUTER" (dropTrailing "JOIN" (capitalWords s)) = [kind.label.toList] := by
    unfold parse?
    split
    · rename_i label hwords
      rw [ofLabel?_eq_some_iff, capitalWords, hwords, List.singleton_inj]
    · rename_i hnone
      exact iff_of_false nofun (hnone _)
  have houter : [kind.label.toList].getLast? ≠ some "OUTER".toList := by
    cases kind <;> decide
  have hjoin : [kind.label.toList].getLast? ≠ some "JOIN".toList := by
    cases kind <;> decide
  have hboth : [kind.label.toList, "OUTER".toList].getLast? ≠ some "JOIN".toList := by
    show some "OUTER".toList ≠ some "JOIN".toList
    decide
  rw [hlabel, dropTrailing_eq_iff (List.cons_ne_nil _ _) houter, List.singleton_append,
    dropTrailing_eq_iff (List.cons_ne_nil _ _) hjoin,
    dropTrailing_eq_iff (List.cons_ne_nil _ _) hboth]
  simp only [IsSpelled, Bool.exists_bool]
  exact Iff.rfl

theorem text_eq (kind : JoinKind) :
    kind.text = " ".intercalate ((kind.spelling (kind = .full) true).map String.ofList) := by
  cases kind <;> decide +kernel

theorem isSpelled_text (kind : JoinKind) : kind.IsSpelled kind.text := by
  refine ⟨kind = .full, true, ?_⟩
  cases kind <;> decide +kernel

variable {serial : Nat}

theorem ofValue_of_isSpelled (h : kind.IsSpelled s) : ofValue (.text s serial) = .ok kind := by
  simp only [ofValue, Value.ownText?, Option.bind_some, parse?_eq_some_iff.mpr h]

theorem ofValue_of_not_spelled (h : ∀ kind : JoinKind, ¬ kind.IsSpelled s) :
    ofValue (.text s serial) = .error (.unknownJoinKind (.text s serial)) := by
  have hnone : parse? s = none := by
    rw [Option.eq_none_iff_forall_ne_some]
    exact fun kind hkind => h kind (parse?_eq_some_iff.mp hkind)
  simp only [ofValue, Value.ownText?, Option.bind_some, hnone]

theorem ofValue_text_iff : ofValue (.text s serial) = .ok kind ↔ kind.IsSpelled s := by
  refine ⟨fun h => ?_, ofValue_of_isSpelled⟩
  by_cases hspelled : ∃ found : JoinKind, found.IsSpelled s
  · obtain ⟨found, hfound⟩ := hspelled
    cases (ofValue_of_isSpelled hfound).symm.trans h
    exact hfound
  · rw [ofValue_of_not_spelled fun found hfound => hspelled ⟨found, hfound⟩] at h
    cases h

end JoinKind

/-! ## Joins -/

namespace Select

variable {own : SelectId} {before : Select} {table terms given : Value} {kind : JoinKind}

theorem call_join_congr (h : JoinKind.ofValue given = .ok kind) :
    before.call own (.join table terms given) =
      before.call own (.join table terms (.keyword (.joinKind kind))) := by
  have hkind : JoinKind.ofValue (.keyword (.joinKind kind)) = .ok kind := rfl
  simp only [call, Join.make, h, hkind]

theorem call_join_refused {cause : ClauseError} (h : JoinKind.ofValue given = .error cause) :
    before.call own (.join table terms given) = ⟨before, some cause⟩ := by
  simp only [call, Join.make, h]
  rfl

theorem clauseWrites_join (s : Select) (w : Writer) (sub : SelectId → Binding String) :
    ∃ front behind, ∀ j : Join,
      clauseWrites w sub { s with joins := s.joins ++ [j] } = front ++ j.write w sub :: behind := by
  -- Without sources, nothing but the keyword and the select list stands in front of the rest.
  refine ⟨[pure "SELECT"] ++ (if s.distinct.isTruthy then [pure "DISTINCT"] else []) ++
    [Column.writeAny w sub s.columns] ++
    optionalWrite s.source (fun source => do
      return "FROM " ++ (← source.write w sub s.sourceAlias)) ++ s.joins.map (Join.write w sub),
    (clauseWrites w sub { s with distinct := .null, source := none, joins := [] }).drop 2,
    fun j => ?_⟩
  simp only [clauseWrites, List.map_append, List.append_assoc]
  rfl

/-- An accepted join stands behind those that were there, and it starts with the words of its
kind. -/
theorem call_join_accepted (h : JoinKind.ofValue given = .ok kind)
    (haccepted : (before.call own (.join table terms given)).refusal = none) :
    ∃ name on front behind,
      (before.call own (.join table terms given)).state =
          { before with joins := before.joins ++ [⟨kind, name, on⟩] } ∧
        (before.call own (.join table terms given)).state.layout =
          front ++ (.word (kind.text ++ " ") :: .reference name :: .word " ON " :: on.layout) ++
            behind ∧
        ∀ (w : Writer) (sub : SelectId → Binding String), ∃ first rest : List (Binding String),
          (before.call own (.join table terms given)).state.clauseWrites w sub =
            first ++ (do
              return kind.text ++ " " ++ (← w.reference name) ++ " ON " ++ (← on.write w sub)) ::
              rest := by
  cases hjoin : Join.make table terms given with
  | error cause =>
      rw [call, hjoin] at haccepted
      cases haccepted
  | ok j =>
      obtain ⟨found, hfound, hrest⟩ := Condition.bind_ok hjoin
      obtain ⟨name, -, hrest⟩ := Condition.bind_ok hrest
      obtain ⟨on, -, hrest⟩ := Condition.bind_ok hrest
      cases h.symm.trans hfound
      cases hrest
      obtain ⟨front, behind, hlayout⟩ := before.layout_join []
      have hcall : before.call own (.join table terms given) =
          ⟨{ before with joins := before.joins ++ [⟨kind, name, on⟩] }, none⟩ := by
        rw [call, hjoin]
        rfl
      rw [hcall]
      refine ⟨name, on, front, behind, rfl, hlayout ⟨kind, name, on⟩, fun w sub => ?_⟩
      obtain ⟨first, rest, hwritten⟩ := before.clauseWrites_join w sub
      exact ⟨first, rest, hwritten ⟨kind, name, on⟩⟩

end Select

/-- A text names a kind of join iff its words in upper case are the label of the kind with OUTER or
JOIN or both of them behind it, even behind INNER. A join by such a text is written with the words
of its kind behind the joins that were there. Any other text is refused, whatever else is given, and
the statement stays as it was. -/
theorem join_kind_spelled (s : String) (serial : Nat) :
    (∀ kind : JoinKind, (JoinKind.ofValue (.text s serial) = .ok kind ↔ kind.IsSpelled s) ∧
      (kind.IsSpelled s ↔ kind.IsUsual s ∨
        kind = .inner ∧ ∃ join, JoinKind.capitalWords s = kind.spelling true join) ∧
      kind.IsSpelled kind.text ∧
      kind.text = " ".intercalate ((kind.spelling (kind = .full) true).map String.ofList)) ∧
    ∀ (own : SelectId) (before : Select) (table terms : Value),
      let joined := before.call own (.join table terms (.text s serial))
      (∀ kind : JoinKind, kind.IsSpelled s →
        joined = before.call own (.join table terms (.keyword (.joinKind kind))) ∧
        (joined.refusal = none → ∃ name on front behind,
          joined.state = { before with joins := before.joins ++ [⟨kind, name, on⟩] } ∧
            joined.state.layout =
              front ++ (.word (kind.text ++ " ") :: .reference name :: .word " ON " :: on.layout) ++
                behind ∧
            ∀ (w : Writer) (sub : SelectId → Binding String), ∃ first rest : List (Binding String),
              joined.state.clauseWrites w sub =
                first ++ (do
                  return kind.text ++ " " ++ (← w.reference name) ++ " ON " ++
                    (← on.write w sub)) :: rest)) ∧
      ((∀ kind : JoinKind, ¬ kind.IsSpelled s) →
        joined = ⟨before, some (.unknownJoinKind (.text s serial))⟩) := by
  refine ⟨fun kind => ⟨JoinKind.ofValue_text_iff, JoinKind.isSpelled_iff, kind.isSpelled_text,
    kind.text_eq⟩, fun own before table terms => ⟨fun kind hkind => ?_, fun hnone => ?_⟩⟩
  · have hvalue : JoinKind.ofValue (.text s serial) = .ok kind :=
      JoinKind.ofValue_of_isSpelled hkind
    exact ⟨Select.call_join_congr hvalue, Select.call_join_accepted hvalue⟩
  · exact Select.call_join_refused (JoinKind.ofValue_of_not_spelled hnone)

/-- OUTER is read behind INNER too. -/
theorem inner_outer_accepted :
    JoinKind.ofValue (.ofText "inner outer") = .ok .inner ∧
      ∀ kind : JoinKind, ¬ kind.IsUsual "inner outer" := by
  have hwords : JoinKind.capitalWords "inner outer" = ["INNER".toList, "OUTER".toList] := by
    decide +kernel
  have honly : ∀ (kind : JoinKind) (outer join : Bool),
      ["INNER".toList, "OUTER".toList] = kind.spelling outer join → outer ∧ kind = .inner := by
    intro kind outer join
    cases kind <;> cases outer <;> cases join <;> decide
  refine ⟨JoinKind.ofValue_of_isSpelled ⟨true, false, hwords⟩, ?_⟩
  rintro kind ⟨outer, join, husual, hspelled⟩
  obtain ⟨houter, hinner⟩ := honly kind outer join (hwords.symm.trans hspelled)
  exact husual houter hinner

end SqlComposer
