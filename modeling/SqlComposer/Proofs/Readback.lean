import SqlComposer.Proofs.Embedding
import SqlComposer.Proofs.Legibility
import SqlComposer.Proofs.Parsing
import SqlComposer.Proofs.Paths
import SqlComposer.Proofs.Quoting

/-!
# Conditions read back

A condition over paths and values that are bound, written with double quotes and `$` placeholders,
can be parsed from its text and values: what comes back is the normal form of what it says. So two
such conditions with the same text and the same values say the same.
-/

namespace SqlComposer

/-! ## Tokens of predicates -/

/-- A path with quotes around its segments. -/
def Dialect.path (d : Dialect) (column : String) : String :=
  d.spelled (Identifier.pathParts column.toList)

def Predicate.tokens (d : Dialect) : Predicate → List Token
  | .comparison column op v => [.text (d.path column), .text " ", .text op, .text " ", .bound v]
  | .isNull column negated =>
    [.text (d.path column), .text (if negated then " IS NOT NULL" else " IS NULL")]
  | .between column low high =>
    [.text (d.path column), .text " BETWEEN ", .bound low, .text " AND ", .bound high]
  | .pattern column v ignoresCase =>
    [.text (d.path column), .text (if ignoresCase then " ILIKE " else " LIKE "), .bound v]
  | .membership column members =>
    .text (d.path column) :: .text " IN " :: .text "(" ::
      (commaSeparated (members.map fun v => [.bound v]) ++ [.text ")"])
  | .other _ => []

def Lexeme.tokens (d : Dialect) : Lexeme Predicate → List Token
  | .opening => [.text "("]
  | .closing => [.text ")"]
  | .not => [.text "NOT "]
  | .connective op => [.text (" " ++ op.text ++ " ")]
  | .predicate p => p.tokens d

/-- The one token of a piece that is written without fail, if it is of that kind. -/
def Piece.token? (d : Dialect) : Piece → Option Token
  | .word text | .copied text => some (.text text)
  | .identifier name => some (.text (d.identifier name))
  | .value v => some (.bound v)
  | _ => none

section Written

open Identifier

variable {d : Dialect} {w : Writer} {serial : Serial}

namespace Dialect

theorem identifier_of_isPath (hquoting : d.isQuoting) {name : Name}
    (h : isPath name.text.toList) : d.identifier name = d.path name.text := by
  rw [identifier, identifierParts, hquoting, isQuotable_of_isPath h]
  rfl

variable (hquotes : d.QuotesWith '"' '"') {column : String} (hpath : isPath column.toList)
include hquotes hpath

theorem withoutQuotes_path : withoutQuotes '"' '"' (d.path column) = column := by
  have hnone : '"' ∉ column.toList := not_mem_path hpath '"' (by decide)
  refine hquotes.withoutQuotes_eq ?_ ⟨hnone, hnone⟩
  rw [unquoted_pathParts, String.ofList_toList]

theorem head_path : (d.path column).toList.head? = some '"' := by
  have hparts : ∃ rest, pathParts column.toList =
      .quoted (.plain (String.ofList (Text.split (· == '.') column.toList).1)) :: rest := by
    have hbare := List.all_eq_true.mp hpath _ (List.mem_cons_self ..)
    have hstar : (Text.split (· == '.') column.toList).1 ≠ ['*'] := by
      intro hstar
      rw [hstar] at hbare
      cases hbare
    rw [pathParts, segments, Text.splitAll, List.map_cons, segmentPart, if_neg hstar]
    cases (Text.split (· == '.') column.toList).2 <;> exact ⟨_, rfl⟩
  obtain ⟨rest, hrest⟩ := hparts
  rw [path, hrest, spelled, List.map_cons, String.join_cons, partText, hquotes.quote]
  simp [Name.display, enclosed]

theorem words_path : words [] (d.path column).toList = [.column column] := by
  have hfree : ∀ c ∈ (d.path column).toList, Word.isDelimiter c = false := by
    intro c hc
    have hdelimiters : ∀ c ∈ [' ', ',', '(', ')'], c ∉ (d.path column).toList := by
      intro c hdelimiter hc
      -- Deleting the quotes leaves a delimiter in place, and a path has none.
      have hne : c ≠ '"' := by
        rintro rfl
        revert hdelimiter
        decide
      have hmem : c ∈ (withoutQuotes '"' '"' (d.path column)).toList := by
        simp [withoutQuotes, hc, hne]
      rw [withoutQuotes_path hquotes hpath] at hmem
      refine not_mem_path hpath c ?_ hmem
      exact List.mem_cons_of_mem _ (List.mem_cons_of_mem _ hdelimiter)
    exact decide_eq_false fun hdelimiter => hdelimiters c hdelimiter hc
  have hword : Word.ofCharacters (d.path column).toList = .column column := by
    have hcolumn := withoutQuotes_path hquotes hpath
    simp only [withoutQuotes, and_self] at hcolumn
    simp only [Word.ofCharacters, head_path hquotes hpath, hcolumn]
  have hne : (d.path column).toList ≠ [] := by
    intro hnil
    have hhead := head_path hquotes hpath
    rw [hnil] at hhead
    cases hhead
  rw [words_run hne hfree, hword]

end Dialect

theorem words_placeholder (hstyle : d.style? = some .dollar) (number : Nat) :
    words [] (d.placeholder number).toList = [.placeholder] := by
  have hcharacters := Dialect.toList_placeholder hstyle rfl number
  have hfree : ∀ c ∈ (d.placeholder number).toList, Word.isDelimiter c = false := by
    intro c hc
    rw [hcharacters] at hc
    obtain rfl | hc := List.mem_cons.mp hc
    · rfl
    · have hdigit := isDigit_of_mem_number hc
      refine decide_eq_false fun hdelimiter => ?_
      have hnone : ∀ c ∈ [' ', ',', '(', ')'], ¬ c.isDigit := forall_of_all (by decide)
      exact hnone c hdelimiter hdigit
  rw [words_run (by simp [hcharacters]) hfree, hcharacters]
  rfl

theorem words_operator {op : String} (h : op ∈ comparisonOperators) :
    words [] op.toList = [.operator op] :=
  (by decide : ∀ op ∈ comparisonOperators, words [] op.toList = [.operator op]) op h

/-! ## Words of tokens -/

theorem commaSeparated_cons (first next : List Token) (rest : List (List Token)) :
    commaSeparated (first :: next :: rest) =
      first ++ .text ", " :: commaSeparated (next :: rest) := by
  simp [commaSeparated, List.intercalate_cons_cons]

namespace Token

/-- The words of tokens that are written behind so many values. -/
def wordsFrom (d : Dialect) (count : Nat) (tokens : List Token) : List Word :=
  words [] (textFrom d count tokens).toList

/-- Whether tokens come to a text that ends a word in front of it. -/
def endWord : List Token → Bool
  | [] => true
  | .text s :: _ => s.toList.head?.any Word.isDelimiter
  | .bound _ :: _ => false

variable {count : Nat} {s : String} {v : Value} {front back tokens : List Token}

theorem endsWord (h : endWord tokens) : EndsWord (textFrom d count tokens).toList := by
  intro c hc
  cases tokens with
  | nil => cases hc
  | cons token tokens =>
      cases token with
      | text s =>
          obtain ⟨first, hfirst, hdelimiter⟩ := (Option.any_eq_true _ _).mp h
          rw [textFrom, String.toList_append, List.head?_append, hfirst] at hc
          cases hc
          exact hdelimiter
      | bound v => cases h

theorem wordsFrom_append (h : endWord back) :
    wordsFrom d count (front ++ back) =
      wordsFrom d count front ++ wordsFrom d (count + (values front).length) back := by
  rw [wordsFrom, textFrom_append, String.toList_append, words_append (endsWord h)]
  rfl

theorem wordsFrom_text (h : endWord tokens) :
    wordsFrom d count (.text s :: tokens) = words [] s.toList ++ wordsFrom d count tokens := by
  rw [wordsFrom, textFrom, String.toList_append, words_append (endsWord h)]
  rfl

theorem wordsFrom_spaced (h : s.toList.getLast?.any Word.isDelimiter) :
    wordsFrom d count (.text s :: tokens) = words [] s.toList ++ wordsFrom d count tokens := by
  rw [wordsFrom, textFrom, String.toList_append, words_append_delimiter h]
  rfl

theorem wordsFrom_bound (hstyle : d.style? = some .dollar) (h : endWord tokens) :
    wordsFrom d count (.bound v :: tokens) = .placeholder :: wordsFrom d (count + 1) tokens := by
  rw [wordsFrom, textFrom, String.toList_append, words_append (endsWord h),
    words_placeholder hstyle]
  rfl

theorem endWord_text (h : s.toList.head?.any Word.isDelimiter) : endWord (.text s :: tokens) :=
  h

theorem wordsFrom_members (hstyle : d.style? = some .dollar) {members : List Value}
    (h : members ≠ []) :
    wordsFrom d count (commaSeparated (members.map fun v => [.bound v]) ++ [.text ")"]) =
      members.map (fun _ => .placeholder) ++ [.closing] := by
  induction members generalizing count with
  | nil => exact absurd rfl h
  | cons v members ih =>
      cases members with
      | nil =>
          have hsingle : commaSeparated [[.bound v]] = [.bound v] := by simp [commaSeparated]
          have hend : endWord [.text ")"] := endWord_text (by decide)
          rw [List.map_singleton, hsingle, List.singleton_append, wordsFrom_bound hstyle hend,
            wordsFrom_text rfl]
          rfl
      | cons next members =>
          have hcomma : words [] ", ".toList = [] := by decide
          have hrest := @ih (count + 1) (List.cons_ne_nil _ _)
          rw [List.map_cons] at hrest
          rw [List.map_cons, List.map_cons, commaSeparated_cons, List.append_assoc,
            List.singleton_append, List.cons_append,
            wordsFrom_bound hstyle (endWord_text (by decide)), wordsFrom_spaced (by decide), hcomma,
            List.nil_append, hrest]
          rfl

end Token

theorem Predicate.wordsFrom_tokens (hquotes : d.QuotesWith '"' '"')
    (hstyle : d.style? = some .dollar) {p : Predicate} (h : p.isLegible) (count : Nat) :
    Token.wordsFrom d count (p.tokens d) = p.words := by
  have hblank : SqlComposer.words [] " ".toList = [] := by decide
  cases p with
  | comparison column op v =>
      simp only [isLegible, Bool.and_eq_true, decide_eq_true_eq] at h
      rw [tokens, Token.wordsFrom_text (Token.endWord_text (by decide)),
        Token.wordsFrom_spaced (by decide), Token.wordsFrom_text (Token.endWord_text (by decide)),
        Token.wordsFrom_spaced (by decide), Token.wordsFrom_bound hstyle rfl,
        Dialect.words_path hquotes h.1.1, words_operator h.1.2, hblank]
      rfl
  | isNull column negated =>
      have hend : Token.endWord [.text (if negated then " IS NOT NULL" else " IS NULL")] := by
        cases negated <;> exact Token.endWord_text (by decide)
      rw [tokens, Token.wordsFrom_text hend, Token.wordsFrom_text rfl,
        Dialect.words_path hquotes h]
      cases negated <;> rfl
  | between column low high =>
      simp only [isLegible, Bool.and_eq_true] at h
      rw [tokens, Token.wordsFrom_text (Token.endWord_text (by decide)),
        Token.wordsFrom_spaced (by decide),
        Token.wordsFrom_bound hstyle (Token.endWord_text (by decide)),
        Token.wordsFrom_spaced (by decide), Token.wordsFrom_bound hstyle rfl,
        Dialect.words_path hquotes h.1.1]
      rfl
  | pattern column v ignoresCase =>
      simp only [isLegible, Bool.and_eq_true] at h
      have hwords : Token.wordsFrom d count
          [.text (if ignoresCase then " ILIKE " else " LIKE "), .bound v] =
            [.pattern ignoresCase, .placeholder] := by
        cases ignoresCase <;>
          exact (Token.wordsFrom_spaced (by decide)).trans
            (congrArg _ (Token.wordsFrom_bound hstyle rfl))
      have hend : Token.endWord
          [.text (if ignoresCase then " ILIKE " else " LIKE "), .bound v] := by
        cases ignoresCase <;> exact Token.endWord_text (by decide)
      rw [tokens, Token.wordsFrom_text hend, hwords, Dialect.words_path hquotes h.1]
      rfl
  | membership column members =>
      simp only [isLegible, Bool.and_eq_true, Bool.not_eq_true'] at h
      have hne : members ≠ [] := by simpa using h.1.2
      rw [tokens, Token.wordsFrom_text (Token.endWord_text (by decide)),
        Token.wordsFrom_spaced (by decide), Token.wordsFrom_spaced (by decide),
        Token.wordsFrom_members hstyle hne, Dialect.words_path hquotes h.1.1]
      rfl
  | other v => cases h

/-! ## Words and values of phrases -/

theorem Token.wordsFrom_connective (op : Connective) (count : Nat) (front back : List Token) :
    wordsFrom d count (front ++ .text (" " ++ op.text ++ " ") :: back) =
      wordsFrom d count front ++ .connective op ::
        wordsFrom d (count + (values front).length) back := by
  have hwords : words [] (" " ++ op.text ++ " ").toList = [.connective op] := by
    cases op <;> decide
  have hend : endWord (.text (" " ++ op.text ++ " ") :: back) :=
    endWord_text (by cases op <;> decide)
  rw [wordsFrom_append hend, wordsFrom_spaced (by cases op <;> decide), hwords]
  rfl

theorem Lexeme.flatMap_connective {β : Type} (f : Lexeme Predicate → List β) (op : Connective)
    (ls ms : List (Lexeme Predicate)) :
    (ls ++ .connective op :: ms).flatMap f =
      ls.flatMap f ++ (f (.connective op) ++ ms.flatMap f) := by
  rw [List.flatMap_append, List.flatMap_cons]

/-- A phrase is written with the words of its lexemes. Wherever two of them meet, one ends or begins
with a blank or a parenthesis. -/
theorem Reads.wordsFrom_tokens {T : Type} {logic : Logic T} {assigned : Predicate → T} {rank : Rank}
    {ls : List (Lexeme Predicate)} {t : T} (hquotes : d.QuotesWith '"' '"')
    (hstyle : d.style? = some .dollar) (h : Reads logic assigned rank ls t)
    (hlegible : ∀ p ∈ ls.filterMap Lexeme.predicate?, p.isLegible) (count : Nat) :
    Token.wordsFrom d count (ls.flatMap (Lexeme.tokens d)) = ls.flatMap Lexeme.words := by
  induction h generalizing count with
  | predicate p =>
      have hp := Predicate.wordsFrom_tokens hquotes hstyle
        (hlegible p (List.mem_singleton.mpr rfl)) count
      simpa [Lexeme.tokens, Lexeme.words] using hp
  | @grouped ls t h ih =>
      have hinner : ∀ p ∈ ls.filterMap Lexeme.predicate?, p.isLegible := fun p hp =>
        hlegible p (by simpa [Lexeme.grouped, Lexeme.predicate?] using hp)
      have hclosing : Token.endWord [.text ")"] := Token.endWord_text (by decide)
      simp only [Lexeme.grouped, List.flatMap_cons, List.flatMap_append, List.flatMap_nil,
        Lexeme.tokens, Lexeme.words, List.singleton_append, List.append_nil]
      rw [Token.wordsFrom_spaced (by decide), Token.wordsFrom_append hclosing, ih hinner,
        Token.wordsFrom_text rfl]
      rfl
  | @not ls t h ih =>
      simp only [List.flatMap_cons, Lexeme.tokens, Lexeme.words, List.singleton_append]
      rw [Token.wordsFrom_spaced (by decide), ih hlegible]
      rfl
  | factor h ih | conjunction h ih => exact ih hlegible count
  | and h hms ih ihms | or h hms ih ihms =>
      simp only [List.filterMap_append, List.mem_append] at hlegible
      have hfront := ih fun p hp => hlegible p (.inl hp)
      have hback := ihms fun p hp => hlegible p (.inr hp)
      rw [Lexeme.flatMap_connective, Lexeme.flatMap_connective, ← hfront count, ← hback]
      exact Token.wordsFrom_connective _ count _ _

theorem Lexeme.values_tokens (lexeme : Lexeme Predicate) :
    Token.values (lexeme.tokens d) = lexeme.values := by
  cases lexeme with
  | predicate p =>
      cases p with
      | membership column members =>
          show Token.values
            (commaSeparated (members.map fun v => [.bound v]) ++ [.text ")"]) = members
          rw [Token.values_append, Token.values_commaSeparated, List.flatMap_map]
          exact (List.append_nil _).trans (List.flatMap_singleton' members)
      | _ => rfl
  | _ => rfl

theorem values_lexemes (ls : List (Lexeme Predicate)) :
    Token.values (ls.flatMap (Lexeme.tokens d)) = ls.flatMap Lexeme.values := by
  induction ls with
  | nil => rfl
  | cons lexeme ls ih =>
      rw [List.flatMap_cons, List.flatMap_cons, ← ih, ← lexeme.values_tokens (d := d)]
      exact List.filterMap_append

/-! ## Tokens of pieces -/

section Pieces

variable (hw : w.dialect = .dialect d serial) (hquotes : d.QuotesWith '"' '"')
  (hstyle : d.style? = some .dollar) (sub : SelectId → List Piece)
include hw hquotes hstyle

theorem Piece.tokens_of_token? {piece : Piece} {token : Token} (h : piece.token? d = some token) :
    SqlComposer.tokens w (piece.unfolded sub) = pure [token] := by
  cases piece with
  | word text | copied text =>
      cases h
      rfl
  | identifier name =>
      cases h
      exact (tokens_singleton w _).trans
        (Piece.tokens_identifier hw hquotes.hasPlainQuotes name)
  | value v =>
      cases h
      have hbound : d.style?.isSome := by rw [hstyle]; rfl
      simp only [Piece.unfolded, SqlComposer.tokens, Piece.tokens, Writer.token, Writer.binding,
        Writer.dialectFor_of_dialect hw, pure_bind, if_pos hbound]
      rfl
  | _ => cases h

theorem tokens_of_tokens? {pieces : List Piece} {ts : List Token}
    (h : pieces.map (Piece.token? d) = ts.map some) : tokens w (unfolded sub pieces) = pure ts := by
  induction pieces generalizing ts with
  | nil =>
      cases ts with
      | nil => rfl
      | cons t ts => cases h
  | cons piece pieces ih =>
      cases ts with
      | nil => cases h
      | cons t ts =>
          obtain ⟨hpiece, hpieces⟩ := List.cons.inj h
          rw [tokens_unfolded_cons, piece.tokens_of_token? hw hquotes hstyle sub hpiece, ih hpieces]
          rfl

end Pieces

theorem Value.layout_of_isBound {v : Value} (h : v.isBound) : v.layout = [.value v] := by
  cases v with
  | condition c =>
      cases c with
      | raw fragment => cases h
      | _ => rfl
  | statement r =>
      cases r with
      | select id => cases h
      | _ => rfl
  | _ => rfl

theorem Value.layouts_of_isBound : {members : List Value} → members.all Value.isBound →
    Value.layouts members = members.map fun v => [.value v]
  | [], _ => rfl
  | v :: members, h => by
      rw [List.all_cons, Bool.and_eq_true] at h
      rw [Value.layouts, Value.layout_of_isBound h.1, Value.layouts_of_isBound h.2]
      rfl

theorem tokens_members (members : List Value) :
    (Piece.joined ", " (members.map fun v => [.value v])).map (Piece.token? d) =
      (commaSeparated (members.map fun v => [.bound v])).map some := by
  induction members with
  | nil => rfl
  | cons v members ih =>
      cases members with
      | nil => simp [Piece.joined, commaSeparated, Piece.token?]
      | cons next members =>
          have hjoined : Piece.joined ", " ((v :: next :: members).map fun v => [.value v]) =
              .value v :: .word ", " ::
                Piece.joined ", " ((next :: members).map fun v => [.value v]) := by
            simp [Piece.joined, List.intercalate_cons_cons]
          have hseparated : commaSeparated ((v :: next :: members).map fun v => [.bound v]) =
              .bound v :: .text ", " ::
                commaSeparated ((next :: members).map fun v => [.bound v]) :=
            commaSeparated_cons ..
          rw [hjoined, hseparated, List.map_cons, List.map_cons, ih]
          rfl

theorem Piece.column_of_name {given : Value} {name : Name} (h : given.name? = some name)
    (behind : List Piece) : Piece.column given behind = .identifier name :: behind := by
  rw [column, h]

theorem Piece.lateColumn_of_name {given : Value} {name : Name} (h : given.name? = some name)
    (behind : List Piece) : Piece.lateColumn given behind = .identifier name :: behind := by
  rw [lateColumn, h]

theorem Condition.tokens_layout (hquoting : d.isQuoting) {c : Condition} {p : Predicate}
    (hp : c.predicate? = some p) (h : p.isLegible) :
    c.layout.map (Piece.token? d) = (p.tokens d).map some := by
  cases c with
  | comparison op column value serial =>
      cases op with
      | text op opSerial =>
          obtain ⟨name, hname, rfl⟩ := Option.map_eq_some_iff.mp hp
          simp only [Predicate.isLegible, Bool.and_eq_true] at h
          have hpath := d.identifier_of_isPath hquoting h.1.1
          rw [layout, Piece.column_of_name hname, Value.layout_of_isBound h.2]
          simp [Piece.token?, Value.operator, Value.name?, Name.display, Predicate.tokens, hpath]
      | _ => cases hp
  | isNull column negated serial =>
      cases negated with
      | bool negated =>
          obtain ⟨name, hname, rfl⟩ := Option.map_eq_some_iff.mp hp
          have hpath := d.identifier_of_isPath hquoting h
          rw [layout, Piece.column_of_name hname]
          cases negated <;> simp [Piece.token?, worded, Value.isTruthy, Predicate.tokens, hpath]
      | _ => cases hp
  | between column low high serial =>
      obtain ⟨name, hname, rfl⟩ := Option.map_eq_some_iff.mp hp
      simp only [Predicate.isLegible, Bool.and_eq_true] at h
      have hpath := d.identifier_of_isPath hquoting h.1.1
      rw [layout, Piece.lateColumn_of_name hname, Value.layout_of_isBound h.1.2,
        Value.layout_of_isBound h.2]
      simp [Piece.token?, Predicate.tokens, hpath]
  | pattern column value ignoresCase serial =>
      cases ignoresCase with
      | bool ignoresCase =>
          obtain ⟨name, hname, rfl⟩ := Option.map_eq_some_iff.mp hp
          simp only [Predicate.isLegible, Bool.and_eq_true] at h
          have hpath := d.identifier_of_isPath hquoting h.1
          rw [layout, Piece.column_of_name hname, Value.layout_of_isBound h.2]
          cases ignoresCase <;>
            simp [Piece.token?, worded, Value.isTruthy, Predicate.tokens, hpath]
      | _ => cases hp
  | membership column values serial =>
      cases values with
      | tuple members inner =>
          obtain ⟨name, hname, rfl⟩ := Option.map_eq_some_iff.mp hp
          simp only [Predicate.isLegible, Bool.and_eq_true] at h
          have hpath := d.identifier_of_isPath hquoting h.1.1
          have htrue : (Value.tuple members inner).isTruthy := h.1.2
          rw [layout, if_pos htrue, Piece.column_of_name hname, Value.memberLayouts,
            Value.layouts_of_isBound h.2]
          · simp [Piece.parenthesized, Piece.token?, Predicate.tokens, hpath, tokens_members]
          · rintro _ ⟨⟩
          · rintro _ _ ⟨⟩
      | _ => cases hp
  | _ => cases hp

section Predicates

variable (hw : w.dialect = .dialect d serial) (hquotes : d.QuotesWith '"' '"')
  (hstyle : d.style? = some .dollar) (sub : SelectId → List Piece)
include hw hquotes hstyle

theorem Value.tokens_predicate {v : Value} (h : v.predicate.isLegible) :
    tokens w (unfolded sub v.conditionLayout) = pure (v.predicate.tokens d) := by
  refine tokens_of_tokens? hw hquotes hstyle sub ?_
  cases v with
  | condition c =>
      cases hp : c.predicate? with
      | none =>
          rw [predicate, hp] at h
          cases h
      | some p =>
          rw [predicate, hp] at h ⊢
          exact Condition.tokens_layout hquotes.isQuoting hp h
  | _ => cases h

theorem tokens_phrase {phrase : List (Lexeme Occurrence)}
    (h : ∀ p ∈ (phrase.map Lexeme.said).filterMap Lexeme.predicate?, p.isLegible) :
    tokens w (unfolded sub (spelled phrase)) =
      pure ((phrase.map Lexeme.said).flatMap (Lexeme.tokens d)) := by
  induction phrase with
  | nil => rfl
  | cons lexeme phrase ih =>
      rw [List.map_cons] at h
      have hlexeme : tokens w (unfolded sub lexeme.pieces) = pure (lexeme.said.tokens d) := by
        cases lexeme with
        | predicate o =>
            refine Value.tokens_predicate hw hquotes hstyle sub (h _ ?_)
            exact List.mem_filterMap.mpr ⟨_, List.mem_cons_self .., rfl⟩
        | _ => rfl
      have hphrase := ih fun p hp => h p (by
        obtain ⟨other, hother, hp⟩ := List.mem_filterMap.mp hp
        exact List.mem_filterMap.mpr ⟨other, List.mem_cons_of_mem _ hother, hp⟩)
      rw [spelled, List.flatMap_cons, tokens_unfolded_append, hlexeme, ← spelled, hphrase]
      rfl

end Predicates

/-! ## Conditions -/

theorem Predicate.isKnown_of_isLegible {p : Predicate} (h : p.isLegible) : p.isKnown := by
  cases p with
  | other v => cases h
  | _ => rfl

section Conditions

variable (st : Store) (inUse : Value) (before : Progress)

theorem Store.renderCondition_ok {c : Condition} {written : List Token}
    (h : tokens (st.writer (st.text inUse) {} (.dialect d serial)) (st.pieces c.layout) =
      pure written) :
    (st.renderCondition inUse (.dialect d serial) (.list [] 0) (.condition c)).run before =
      .ok (.ofTokens (.dialect d serial) [] written) before := by
  have htokens : st.renderPieces inUse (.dialect d serial) {} c.layout =
      do return .ofTokens (.dialect d serial) [] (← pure written) :=
    congrArg (· >>= _) h
  rw [renderCondition_nil, renderInside_eq, Part.layout, htokens]
  rfl

/-- A condition that says what is legible is written as a text that is parsed to the normal form of
what it says. -/
theorem Condition.HasLegible.readback (hquotes : d.QuotesWith '"' '"')
    (hstyle : d.style? = some .dollar) {c : Condition} (h : c.HasLegible) :
    ∃ text values,
      (st.renderCondition inUse (.dialect d serial) (.list [] 0) (.condition c)).run before =
          .ok ⟨text, values, .dialect d serial⟩ before ∧
        Formula.parse? text values = some c.formula.normal := by
  -- These lexemes are what is written, and what the words of the text come to again.
  let ls := (c.phrase []).map Lexeme.said
  have hlegible : ∀ p ∈ ls.filterMap Lexeme.predicate?, p.isLegible := by
    rw [c.predicates_phrase]
    exact h
  have hwritten : tokens (st.writer (st.text inUse) {} (.dialect d serial)) (st.pieces c.layout) =
      pure (ls.flatMap (Lexeme.tokens d)) := by
    rw [← c.spelled_phrase []]
    exact tokens_phrase rfl hquotes hstyle (st.selectPieces []) hlegible
  have hvalues : Token.values (ls.flatMap (Lexeme.tokens d)) = ls.flatMap Lexeme.values :=
    values_lexemes ls
  refine ⟨_, _, st.renderCondition_ok inUse before hwritten, ?_⟩
  rw [List.nil_append, hvalues]
  exact Formula.parse_of_words (c.reads_normal.wordsFrom_tokens hquotes hstyle hlegible 0)
    (fun p hp => p.isKnown_of_isLegible (hlegible p hp)) c.reads_normal

end Conditions

/-- In every dialect with double quotes and `$` placeholders, a condition that is made over paths
from bound values is written as a text that is parsed, with its values, to the normal form of what
it says. So only conditions with the same normal form have the same text and values. -/
theorem condition_readback (st : Store) (inUse : Value) (before : Progress)
    (hquotes : d.QuotesWith '"' '"') (hstyle : d.style? = some .dollar) :
    let render := fun c : Condition =>
      (st.renderCondition inUse (.dialect d serial) (.list [] 0) (.condition c)).run before
    (∀ c : Condition, c.Legible →
      ∃ text values, render c = .ok ⟨text, values, .dialect d serial⟩ before ∧
        Formula.parse? text values = some c.formula.normal ∧ c.formula.normal.isNormal) ∧
      ∀ c c' : Condition, c.Legible → c'.Legible → ∀ rendered rendered' after after',
        render c = .ok rendered after → render c' = .ok rendered' after' →
          rendered.text = rendered'.text → rendered.values = rendered'.values →
            c.formula.normal = c'.formula.normal := by
  intro render
  have hreadback (c : Condition) (hc : c.Legible) :
      ∃ text values, render c = .ok ⟨text, values, .dialect d serial⟩ before ∧
        Formula.parse? text values = some c.formula.normal :=
    hc.hasLegible.readback st inUse before hquotes hstyle
  constructor
  · intro c hc
    obtain ⟨text, values, hrender, hparse⟩ := hreadback c hc
    exact ⟨text, values, hrender, hparse, c.formula.isNormal_normal⟩
  · intro c c' hc hc' rendered rendered' after after' h h' htext hvalues
    obtain ⟨text, values, hrender, hparse⟩ := hreadback c hc
    obtain ⟨text', values', hrender', hparse'⟩ := hreadback c' hc'
    cases hrender.symm.trans h
    cases hrender'.symm.trans h'
    cases htext
    cases hvalues
    exact Option.some.inj (hparse.symm.trans hparse')

/-- A range, negated, beside a mapping. -/
def rangeOrEntry : List Value :=
  [.condition (.negation (.condition range) 0), .map [(.ofText "c", .ofText "x")] 0]
where
  range : Condition := .between (.ofText "a.b") (.int 1 0) (.int 2 0) 0

theorem condition_readback_range :
    let d := { Dialect.standard with opening := .ofText "\"", closing := .ofText "\"" }
    d.QuotesWith '"' '"' ∧ d.style? = some .dollar ∧
      ∃ c, Condition.connect .or rangeOrEntry = .ok c ∧ ∃ text values,
        (({} : Store).renderCondition .null (.dialect d 0) (.list [] 0) (.condition c)).run {} =
            .ok ⟨text, values, .dialect d 0⟩ {} ∧
          Formula.parse? text values = some (.joined .or
            (.negation (.predicate (.between "a.b" (.int 1 0) (.int 2 0))))
            [.predicate (.comparison "c" "=" (.ofText "x"))]) := by
  intro d
  have hquotes : d.QuotesWith '"' '"' := ⟨rfl, rfl⟩
  have hrange : rangeOrEntry.range.Legible := by
    have hwithin : Condition.within (.ofText "a.b") (.int 1 0) (.int 2 0) =
        .ok rangeOrEntry.range := rfl
    exact .within (by decide) rfl rfl hwithin
  have hnegation : (Condition.negation (.condition rangeOrEntry.range) 0).Legible := by
    have hopposite : Condition.opposite (.condition rangeOrEntry.range) =
        .ok (.negation (.condition rangeOrEntry.range) 0) := rfl
    refine .opposite ?_ ?_ hopposite
    · rintro _ ⟨⟩
      exact hrange
    · rintro _ _ ⟨⟩
  have hentries : AreLegible [(.ofText "c", .ofText "x")] := by
    intro entry hentry
    cases List.mem_singleton.mp hentry
    exact ⟨by decide, rfl⟩
  obtain ⟨c, hc⟩ : ∃ c, Condition.connect .or rangeOrEntry = .ok c := ⟨_, rfl⟩
  have hlegible : c.Legible := by
    refine .connect (fun inner hinner => ?_) (fun entries serial hmap => ?_) hc
    · rcases hinner with _ | ⟨_, _ | ⟨_, ⟨⟩⟩⟩
      exact hnegation
    · rcases hmap with _ | ⟨_, _ | ⟨_, ⟨⟩⟩⟩
      exact hentries
  obtain ⟨text, values, hrender, hparse, -⟩ :=
    (condition_readback {} .null {} hquotes rfl).1 c hlegible
  refine ⟨hquotes, rfl, c, hc, text, values, hrender, ?_⟩
  cases hc
  exact hparse

end Written

end SqlComposer
