import SqlComposer.Proofs.Formulas

/-!
# Parsing conditions

A parser for conditions with quoted columns and numbered placeholders. The characters of a text are
split into words, the words and the values become lexemes, and the lexemes are read with a stack of
the parentheses that are open. Whatever has a reading is parsed to it.
-/

namespace SqlComposer

/-! ## From lexemes to truth values -/

/-- What has been read inside a pair of parentheses so far: the operands of OR that have come to
their end, the operands of AND since then, and the negations since then. -/
structure Level (T : Type) where
  disjuncts : Option T := none
  conjuncts : Option T := none
  negations : Nat := 0

namespace Logic

variable {α T : Type} (logic : Logic T)

/-- A truth value under a connective with the one in front of it, if there is one. -/
def behind (op : Connective) : Option T → T → T
  | none, t => t
  | some u, t => logic.apply op u t

def negated : Nat → T → T
  | 0, t => t
  | n + 1, t => negated n (logic.negation t)

/-- A level once an operand has been read behind its negations. -/
def complete (level : Level T) (t : T) : Level T where
  disjuncts := level.disjuncts
  conjuncts := some (logic.behind .and level.conjuncts (logic.negated level.negations t))

/-- What a level comes to when its parenthesis is closed. -/
def result? (level : Level T) : Option T :=
  level.conjuncts.map (logic.behind .or level.disjuncts)

/-- Reads lexemes inside the levels that are open, the innermost of which is given on its own. -/
def readFrom (assigned : α → T) : List (Lexeme α) → Level T → List (Level T) → Option T
  | [], level, [] => logic.result? level
  | [], _, _ :: _ => none
  | .predicate a :: ls, level, outer =>
    readFrom assigned ls (logic.complete level (assigned a)) outer
  | .not :: ls, level, outer =>
    readFrom assigned ls { level with negations := level.negations + 1 } outer
  | .connective .and :: ls, level, outer => readFrom assigned ls level outer
  | .connective .or :: ls, level, outer =>
    readFrom assigned ls { disjuncts := logic.result? level } outer
  | .opening :: ls, level, outer => readFrom assigned ls {} (level :: outer)
  | .closing :: ls, level, around :: outer =>
    match logic.result? level with
    | some t => readFrom assigned ls (logic.complete around t) outer
    | none => none
  | .closing :: _, _, [] => none

def read? (assigned : α → T) (ls : List (Lexeme α)) : Option T :=
  logic.readFrom assigned ls {} []

variable {logic}

theorem behind_behind (op : Connective) (front : Option T) (t u : T) :
    logic.behind op (some (logic.behind op front t)) u =
      logic.behind op front (logic.apply op t u) := by
  cases front with
  | none => rfl
  | some v => exact logic.assoc op v t u

theorem complete_complete {level : Level T} (h : level.negations = 0) (t u : T) :
    logic.complete (logic.complete level t) u = logic.complete level (logic.apply .and t u) := by
  simp only [complete, h, negated, behind_behind]

end Logic

/-- Where a phrase of each kind leads to from a level. A factor may stand behind negations, a chain
under AND may not, and a chain under OR has all that is inside of its parentheses. -/
def Rank.Leads {T : Type} (logic : Logic T) (level : Level T) (t : T) (next : Level T) :
    Rank → Prop
  | .factor => next = logic.complete level t
  | .conjunction => level.negations = 0 → next = logic.complete level t
  | .disjunction => level.negations = 0 → level.conjuncts = none →
    logic.result? next = some (logic.behind .or level.disjuncts t)

namespace Reads

variable {α T : Type} {logic : Logic T} {assigned : α → T}

/-- A phrase leads from any level to the next one, whatever follows it. -/
theorem leads {rank : Rank} {ls : List (Lexeme α)} {t : T} (h : Reads logic assigned rank ls t)
    (level : Level T) :
    ∃ next, rank.Leads logic level t next ∧ ∀ (rest : List (Lexeme α)) (outer : List (Level T)),
      logic.readFrom assigned (ls ++ rest) level outer =
        logic.readFrom assigned rest next outer := by
  induction h generalizing level with
  | predicate a => exact ⟨_, rfl, fun _ _ => rfl⟩
  | @grouped ls t h ih =>
      -- Inside of the parentheses a new level begins, and it ends with what is read there.
      obtain ⟨next, hnext, hread⟩ := ih {}
      have hresult : logic.result? next = some t := hnext rfl rfl
      refine ⟨_, rfl, fun rest outer => ?_⟩
      rw [Lexeme.grouped, List.cons_append, Logic.readFrom, List.append_assoc,
        List.singleton_append, hread, Logic.readFrom, hresult]
  | not h ih =>
      obtain ⟨next, hnext, hread⟩ := ih { level with negations := level.negations + 1 }
      exact ⟨next, hnext, hread⟩
  | factor h ih =>
      obtain ⟨next, hnext, hread⟩ := ih level
      exact ⟨next, fun _ => hnext, hread⟩
  | and h hms ih ihms =>
      -- The first operand is kept among the conjuncts, in front of the chain of the other ones.
      obtain ⟨middle, rfl, hread⟩ := ih level
      obtain ⟨next, hnext, hreads⟩ := ihms (logic.complete level _)
      refine ⟨next, fun hlevel => ?_, fun rest outer => ?_⟩
      · exact (hnext rfl).trans (Logic.complete_complete hlevel _ _)
      · rw [List.append_assoc, List.cons_append, hread, Logic.readFrom, hreads]
  | conjunction h ih =>
      obtain ⟨next, hnext, hread⟩ := ih level
      refine ⟨next, fun hlevel hnone => ?_, hread⟩
      rw [hnext hlevel, Logic.result?, Logic.complete, hlevel, hnone]
      rfl
  | or h hms ih ihms =>
      obtain ⟨middle, hmiddle, hread⟩ := ih level
      obtain ⟨next, hnext, hreads⟩ := ihms { disjuncts := logic.result? middle }
      refine ⟨next, fun hlevel hnone => ?_, fun rest outer => ?_⟩
      · rw [hnext rfl rfl, hmiddle hlevel, Logic.result?, Logic.complete, hlevel, hnone]
        exact congrArg some (Logic.behind_behind .or level.disjuncts _ _)
      · rw [List.append_assoc, List.cons_append, hread, Logic.readFrom, hreads]

theorem read {ls : List (Lexeme α)} {t : T} (h : Reads logic assigned .disjunction ls t) :
    logic.read? assigned ls = some t := by
  obtain ⟨next, hnext, hread⟩ := h.leads {}
  rw [Logic.read?, ← List.append_nil ls, hread]
  exact hnext rfl rfl

end Reads

/-! ## From words to lexemes -/

/-- A word of a text. Placeholders are not told apart, for they come in the order of the values. -/
inductive Word where
  | opening
  | closing
  | not
  | connective (op : Connective)
  | is
  | null
  | between
  | pattern (ignoresCase : Bool)
  | within
  | operator (text : String)
  | column (name : String)
  | placeholder
deriving DecidableEq

mutual

/-- The lexemes that words come to, with as many values as there are placeholders. -/
def lexemes? : List Word → List Value → Option (List (Lexeme Predicate))
  | [], _ => some []
  | .opening :: ws, vs => (lexemes? ws vs).map (.opening :: ·)
  | .closing :: ws, vs => (lexemes? ws vs).map (.closing :: ·)
  | .not :: ws, vs => (lexemes? ws vs).map (.not :: ·)
  | .connective op :: ws, vs => (lexemes? ws vs).map (.connective op :: ·)
  | .column column :: .is :: .null :: ws, vs =>
    (lexemes? ws vs).map (.predicate (.isNull column false) :: ·)
  | .column column :: .is :: .not :: .null :: ws, vs =>
    (lexemes? ws vs).map (.predicate (.isNull column true) :: ·)
  | .column column :: .between :: .placeholder :: .connective .and :: .placeholder :: ws,
      low :: high :: vs =>
    (lexemes? ws vs).map (.predicate (.between column low high) :: ·)
  | .column column :: .pattern ignoresCase :: .placeholder :: ws, v :: vs =>
    (lexemes? ws vs).map (.predicate (.pattern column v ignoresCase) :: ·)
  | .column column :: .operator op :: .placeholder :: ws, v :: vs =>
    (lexemes? ws vs).map (.predicate (.comparison column op v) :: ·)
  | .column column :: .within :: .opening :: ws, vs => membership? column [] ws vs
  | _, _ => none

/-- The lexemes from inside the parentheses behind a column and IN, with the members so far. -/
def membership? (column : String) (members : List Value) :
    List Word → List Value → Option (List (Lexeme Predicate))
  | .placeholder :: ws, v :: vs => membership? column (members ++ [v]) ws vs
  | .closing :: ws, vs => (lexemes? ws vs).map (.predicate (.membership column members) :: ·)
  | _, _ => none

end

def Predicate.words : Predicate → List Word
  | .comparison column op _ => [.column column, .operator op, .placeholder]
  | .isNull column negated => .column column :: .is :: if negated then [.not, .null] else [.null]
  | .between column _ _ =>
    [.column column, .between, .placeholder, .connective .and, .placeholder]
  | .pattern column _ ignoresCase => [.column column, .pattern ignoresCase, .placeholder]
  | .membership column members =>
    .column column :: .within :: .opening :: (members.map (fun _ => .placeholder) ++ [.closing])
  | .other _ => []

def Predicate.values : Predicate → List Value
  | .comparison _ _ v | .pattern _ v _ => [v]
  | .between _ low high => [low, high]
  | .membership _ members => members
  | .isNull _ _ | .other _ => []

def Predicate.isKnown : Predicate → Bool
  | .other _ => false
  | _ => true

namespace Lexeme

def words : Lexeme Predicate → List Word
  | opening => [.opening]
  | closing => [.closing]
  | not => [.not]
  | connective op => [.connective op]
  | predicate p => p.words

def values : Lexeme Predicate → List Value
  | predicate p => p.values
  | _ => []

end Lexeme

theorem membership_words (column : String) (members more : List Value) (ws : List Word)
    (vs : List Value) :
    membership? column members (more.map (fun _ => .placeholder) ++ .closing :: ws) (more ++ vs) =
      (lexemes? ws vs).map (.predicate (.membership column (members ++ more)) :: ·) := by
  induction more generalizing members with
  | nil => simp [membership?]
  | cons v more ih =>
      rw [List.map_cons, List.cons_append, List.cons_append, membership?, ih, List.append_assoc]
      rfl

theorem lexemes_cons {lexeme : Lexeme Predicate} (h : ∀ p ∈ lexeme.predicate?, p.isKnown)
    (ws : List Word) (vs : List Value) :
    lexemes? (lexeme.words ++ ws) (lexeme.values ++ vs) = (lexemes? ws vs).map (lexeme :: ·) := by
  cases lexeme with
  | predicate p =>
      cases p with
      | membership column members =>
          simpa [Lexeme.words, Predicate.words, Lexeme.values, Predicate.values, lexemes?]
            using membership_words column [] members ws vs
      | isNull column negated => cases negated <;> rfl
      | other v => cases h _ rfl
      | _ => rfl
  | _ => rfl

theorem lexemes_words {ls : List (Lexeme Predicate)}
    (h : ∀ p ∈ ls.filterMap Lexeme.predicate?, p.isKnown) :
    lexemes? (ls.flatMap Lexeme.words) (ls.flatMap Lexeme.values) = some ls := by
  induction ls with
  | nil => rfl
  | cons lexeme ls ih =>
      have hlexeme : ∀ p ∈ lexeme.predicate?, p.isKnown := fun p hp =>
        h p (List.mem_filterMap.mpr ⟨lexeme, List.mem_cons_self .., hp⟩)
      have hrest : ∀ p ∈ ls.filterMap Lexeme.predicate?, p.isKnown := by
        intro p hp
        obtain ⟨lexeme, hmem, hp⟩ := List.mem_filterMap.mp hp
        exact h p (List.mem_filterMap.mpr ⟨lexeme, List.mem_cons_of_mem _ hmem, hp⟩)
      rw [List.flatMap_cons, List.flatMap_cons, lexemes_cons hlexeme, ih hrest]
      rfl

/-! ## From characters to words -/

namespace Word

/-- The word of the language or the operator that a text is. -/
def ofText : String → Word
  | "NOT" => not
  | "AND" => connective .and
  | "OR" => connective .or
  | "IS" => is
  | "NULL" => null
  | "BETWEEN" => between
  | "LIKE" => pattern false
  | "ILIKE" => pattern true
  | "IN" => within
  | text => operator text

/-- A word by the first of its characters: a column in quotes, a placeholder, or another one. -/
def ofCharacters (cs : List Char) : Word :=
  match cs.head? with
  | some '"' => column (String.ofList (cs.filter (· ≠ '"')))
  | some '$' => placeholder
  | _ => ofText (String.ofList cs)

/-- The word that ends where no character follows, the last one first, if there is one. -/
def ended (pending : List Char) : List Word :=
  if pending.isEmpty then [] else [ofCharacters pending.reverse]

def isDelimiter (c : Char) : Bool :=
  c ∈ [' ', ',', '(', ')']

/-- Parentheses are words of their own; other delimiters only end one. -/
def ofDelimiter : Char → List Word
  | '(' => [opening]
  | ')' => [closing]
  | _ => []

end Word

/-- The words of a text, behind the characters of a word that has not come to its end. -/
def words (pending : List Char) : List Char → List Word
  | [] => Word.ended pending
  | c :: cs =>
    if Word.isDelimiter c then Word.ended pending ++ Word.ofDelimiter c ++ words [] cs
    else words (c :: pending) cs

/-- The formula of a condition, parsed from its text and values. -/
def Formula.parse? (text : String) (values : List Value) : Option (Formula Predicate) :=
  (lexemes? (words [] text.toList) values).bind ((Logic.formulas Predicate).read? .predicate)

/-- A text with the words of lexemes, and their values, are parsed to what the lexemes read as. -/
theorem Formula.parse_of_words {text : String} {ls : List (Lexeme Predicate)}
    {f : Formula Predicate} (hwords : words [] text.toList = ls.flatMap Lexeme.words)
    (hknown : ∀ p ∈ ls.filterMap Lexeme.predicate?, p.isKnown)
    (hreads : Reads (.formulas Predicate) .predicate .disjunction ls f) :
    Formula.parse? text (ls.flatMap Lexeme.values) = some f := by
  rw [parse?, hwords, lexemes_words hknown]
  exact hreads.read

/-- Whether a text ends a word in front of it. -/
def EndsWord (cs : List Char) : Prop :=
  ∀ c ∈ cs.head?, Word.isDelimiter c

theorem words_append {rest : List Char} (hrest : EndsWord rest) (pending front : List Char) :
    words pending (front ++ rest) = words pending front ++ words [] rest := by
  induction front generalizing pending with
  | nil =>
      cases rest with
      | nil => exact (List.append_nil _).symm
      | cons c rest =>
          have hc : Word.isDelimiter c := hrest c rfl
          simp [words, hc, Word.ended]
  | cons c front ih =>
      rw [List.cons_append, words, words]
      split
      · simp only [ih, List.append_assoc]
      · exact ih _

theorem words_append_delimiter {front : List Char} (h : front.getLast?.any Word.isDelimiter)
    (rest : List Char) : words [] (front ++ rest) = words [] front ++ words [] rest := by
  obtain ⟨c, hlast, hc⟩ := (Option.any_eq_true _ _).mp h
  obtain ⟨front, rfl⟩ := List.getLast?_eq_some_iff.mp hlast
  have hends (cs : List Char) : EndsWord (c :: cs) := fun other hother => by
    cases hother
    exact hc
  rw [List.append_assoc, List.singleton_append, words_append (hends rest),
    words_append (hends []), List.append_assoc]
  simp [words, hc, Word.ended]

theorem words_run {run : List Char} (hne : run ≠ [])
    (h : ∀ c ∈ run, Word.isDelimiter c = false) : words [] run = [.ofCharacters run] := by
  -- The induction is over the rest of the word, behind any characters of it.
  have hpending (run pending : List Char) (h : ∀ c ∈ run, Word.isDelimiter c = false) :
      words pending run = Word.ended (run.reverse ++ pending) := by
    induction run generalizing pending with
    | nil => rfl
    | cons c run ih =>
        have hc : Word.isDelimiter c = false := h c (List.mem_cons_self ..)
        rw [words, hc, if_neg Bool.false_ne_true, ih _ fun c hc => h c (List.mem_cons_of_mem _ hc),
          List.reverse_cons, List.append_assoc]
        rfl
  rw [hpending run [] h, List.append_nil, Word.ended]
  simp [hne]

end SqlComposer
