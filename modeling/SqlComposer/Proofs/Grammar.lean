import SqlComposer.Value

/-!
# The grammar of predicates

How predicates under connectives are read: parentheses group, NOT binds tighter than AND, and AND
tighter than OR. A sequence of lexemes has at most one reading.
-/

namespace SqlComposer

/-! ## Truth values -/

/-- Truth values with what negation and the connectives do to them. How the operands of a chain are
grouped makes no difference. -/
structure Logic (T : Type) where
  negation : T → T
  apply : Connective → T → T → T
  assoc : ∀ op a b c, apply op (apply op a b) c = apply op a (apply op b c)

/-- The truth value of operands under a connective. -/
def Logic.joined {T : Type} (logic : Logic T) (op : Connective) : T → List T → T
  | t, [] => t
  | t, u :: us => logic.apply op t (logic.joined op u us)

def Logic.twoValued : Logic Bool where
  negation t := !t
  apply
    | .and, t, u => t && u
    | .or, t, u => t || u
  assoc op a b c := by
    cases op with
    | and => exact Bool.and_assoc a b c
    | or => exact Bool.or_assoc a b c

/-- The truth values of a comparison in a table: nothing is known if a value is missing. -/
inductive Truth where
  | no
  | unknown
  | yes
deriving DecidableEq

namespace Truth

def negation : Truth → Truth
  | no => yes
  | unknown => unknown
  | yes => no

def conjunction : Truth → Truth → Truth
  | no, _ => no
  | _, no => no
  | yes, t => t
  | t, yes => t
  | unknown, unknown => unknown

def disjunction : Truth → Truth → Truth
  | yes, _ => yes
  | _, yes => yes
  | no, t => t
  | t, no => t
  | unknown, unknown => unknown

end Truth

def Logic.threeValued : Logic Truth where
  negation := Truth.negation
  apply
    | .and => Truth.conjunction
    | .or => Truth.disjunction
  assoc op a b c := by cases op <;> cases a <;> cases b <;> cases c <;> rfl

/-! ## Lexemes -/

/-- What a condition is made of when it is read: predicates, which are not looked into, and the
words and parentheses between them. -/
inductive Lexeme (α : Type) where
  | opening
  | closing
  | not
  | connective (op : Connective)
  | predicate (a : α)

namespace Lexeme

variable {α : Type}

def grouped (lexemes : List (Lexeme α)) : List (Lexeme α) :=
  opening :: (lexemes ++ [closing])

end Lexeme

/-! ## Readings -/

/-- The kinds of phrase, from what binds tightest to what binds loosest. -/
inductive Rank where
  | factor
  | conjunction
  | disjunction

def Connective.rank : Connective → Rank
  | .and => .conjunction
  | .or => .disjunction

section Readings

variable {α T : Type} (logic : Logic T) (assigned : α → T)

/-- The lexemes are a phrase of the given kind, with the given truth value. -/
inductive Reads : Rank → List (Lexeme α) → T → Prop
  | predicate (a : α) : Reads .factor [.predicate a] (assigned a)
  | grouped {ls : List (Lexeme α)} {t : T} : Reads .disjunction ls t →
      Reads .factor (Lexeme.grouped ls) t
  | not {ls : List (Lexeme α)} {t : T} : Reads .factor ls t →
      Reads .factor (.not :: ls) (logic.negation t)
  | factor {ls : List (Lexeme α)} {t : T} : Reads .factor ls t → Reads .conjunction ls t
  | and {ls ms : List (Lexeme α)} {t u : T} : Reads .factor ls t → Reads .conjunction ms u →
      Reads .conjunction (ls ++ .connective .and :: ms) (logic.apply .and t u)
  | conjunction {ls : List (Lexeme α)} {t : T} : Reads .conjunction ls t → Reads .disjunction ls t
  | or {ls ms : List (Lexeme α)} {t u : T} : Reads .conjunction ls t → Reads .disjunction ms u →
      Reads .disjunction (ls ++ .connective .or :: ms) (logic.apply .or t u)

/-- Whether a phrase of the given kind has come to its end before the lexemes that are left. -/
def Rank.EndsBefore : Rank → List (Lexeme α) → Prop
  | .factor, _ => True
  | .conjunction, rest => rest.head? ≠ some (.connective .and)
  | .disjunction, rest => ∀ op, rest.head? ≠ some (.connective op)

end Readings

namespace Reads

variable {α T : Type} {logic : Logic T} {assigned : α → T} {ls ms rest rest' : List (Lexeme α)}
  {t u : T} {rank : Rank}

theorem unique_of_append (h : Reads logic assigned rank ls t) (h' : Reads logic assigned rank ms u)
    (heq : ls ++ rest = ms ++ rest') (hrest : rank.EndsBefore rest)
    (hrest' : rank.EndsBefore rest') : ls = ms ∧ t = u := by
  induction h generalizing ms u rest rest' with
  | predicate a =>
      cases h' with
      | predicate b =>
          simp only [List.cons_append, List.nil_append, List.cons.injEq, Lexeme.predicate.injEq]
            at heq
          obtain ⟨rfl, -⟩ := heq
          exact ⟨rfl, rfl⟩
      | grouped h' => simp [Lexeme.grouped] at heq
      | not h' => simp at heq
  | @grouped ls t h ih =>
      cases h' with
      | predicate b => simp [Lexeme.grouped] at heq
      | @grouped ms u h' =>
          have hinner : ls ++ .closing :: rest = ms ++ .closing :: rest' := by
            simpa [Lexeme.grouped] using heq
          have hend : ∀ tail : List (Lexeme α), Rank.disjunction.EndsBefore (.closing :: tail) := by
            intro tail op
            simp
          obtain ⟨rfl, rfl⟩ := ih h' hinner (hend rest) (hend rest')
          exact ⟨rfl, rfl⟩
      | not h' => simp [Lexeme.grouped] at heq
  | not h ih =>
      cases h' with
      | predicate b => simp at heq
      | grouped h' => simp [Lexeme.grouped] at heq
      | not h' =>
          obtain ⟨rfl, rfl⟩ := ih h' (List.cons.inj heq).2 hrest hrest'
          exact ⟨rfl, rfl⟩
  | factor h ih =>
      cases h' with
      | factor h' => exact ih h' heq trivial trivial
      | and h' hms =>
          rw [List.append_assoc] at heq
          obtain ⟨rfl, -⟩ := ih h' heq trivial trivial
          have hhead := List.append_cancel_left heq
          exact (hrest (congrArg List.head? hhead)).elim
  | and h hls ih ihls =>
      cases h' with
      | factor h' =>
          rw [List.append_assoc] at heq
          obtain ⟨rfl, -⟩ := ih h' heq trivial trivial
          have hhead := List.append_cancel_left heq
          exact (hrest' (congrArg List.head? hhead).symm).elim
      | and h' hms =>
          rw [List.append_assoc, List.append_assoc] at heq
          obtain ⟨rfl, rfl⟩ := ih h' heq trivial trivial
          have htail := (List.cons.inj (List.append_cancel_left heq)).2
          obtain ⟨rfl, rfl⟩ := ihls hms htail hrest hrest'
          exact ⟨rfl, rfl⟩
  | conjunction h ih =>
      cases h' with
      | conjunction h' => exact ih h' heq (hrest .and) (hrest' .and)
      | or h' hms =>
          rw [List.append_assoc] at heq
          obtain ⟨rfl, -⟩ := ih h' heq (hrest .and) (by simp [Rank.EndsBefore])
          have hhead := List.append_cancel_left heq
          exact (hrest .or (congrArg List.head? hhead)).elim
  | or h hls ih ihls =>
      cases h' with
      | conjunction h' =>
          rw [List.append_assoc] at heq
          obtain ⟨rfl, -⟩ := ih h' heq (by simp [Rank.EndsBefore]) (hrest' .and)
          have hhead := List.append_cancel_left heq
          exact (hrest' .or (congrArg List.head? hhead).symm).elim
      | or h' hms =>
          rw [List.append_assoc, List.append_assoc] at heq
          obtain ⟨rfl, rfl⟩ :=
            ih h' heq (by simp [Rank.EndsBefore]) (by simp [Rank.EndsBefore])
          have htail := (List.cons.inj (List.append_cancel_left heq)).2
          obtain ⟨rfl, rfl⟩ := ihls hms htail hrest hrest'
          exact ⟨rfl, rfl⟩

/-- Lexemes have at most one truth value. -/
theorem unique (h : Reads logic assigned .disjunction ls t)
    (h' : Reads logic assigned .disjunction ls u) : t = u := by
  have hend : Rank.disjunction.EndsBefore ([] : List (Lexeme α)) := by
    intro op
    simp
  exact (unique_of_append h h' rfl hend hend).2

theorem ofFactor (h : Reads logic assigned .factor ls t) : Reads logic assigned rank ls t := by
  cases rank with
  | factor => exact h
  | conjunction => exact .factor h
  | disjunction => exact .conjunction (.factor h)

theorem toDisjunction (h : Reads logic assigned rank ls t) :
    Reads logic assigned .disjunction ls t := by
  cases rank with
  | factor => exact .conjunction (.factor h)
  | conjunction => exact .conjunction h
  | disjunction => exact h

theorem chain (op : Connective) (h : Reads logic assigned op.rank ls t)
    (hms : Reads logic assigned op.rank ms u) :
    Reads logic assigned op.rank (ls ++ .connective op :: ms) (logic.apply op t u) := by
  generalize hrank : op.rank = rank at h
  induction h with
  | predicate a => cases op <;> cases hrank
  | grouped h ih => cases op <;> cases hrank
  | not h ih => cases op <;> cases hrank
  | factor h ih =>
      cases op with
      | and => exact .and h hms
      | or => cases hrank
  | and h hls ih ihls =>
      cases op with
      | and =>
          rw [List.append_assoc, List.cons_append, logic.assoc]
          exact .and h (ihls hrank)
      | or => cases hrank
  | conjunction h ih =>
      cases op with
      | and => cases hrank
      | or => exact .or h hms
  | or h hls ih ihls =>
      cases op with
      | and => cases hrank
      | or =>
          rw [List.append_assoc, List.cons_append, logic.assoc]
          exact .or h (ihls hrank)

end Reads

end SqlComposer
