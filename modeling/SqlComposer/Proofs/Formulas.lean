import SqlComposer.Proofs.Meaning

/-!
# Formulas

What a condition says, apart from how it has been put together: predicates, negations and
connectives. In the normal form of a formula no connective has a single operand, and none stands
directly under itself.
-/

namespace SqlComposer

/-- A predicate over the columns of a table. -/
inductive Predicate where
  | comparison (column op : String) (value : Value)
  | isNull (column : String) (negated : Bool)
  | between (column : String) (low high : Value)
  | pattern (column : String) (value : Value) (ignoresCase : Bool)
  | membership (column : String) (members : List Value)
  /-- Anything else, which is not looked into. -/
  | other (v : Value)

inductive Formula (α : Type) where
  | predicate (a : α)
  | negation (f : Formula α)
  | joined (op : Connective) (first : Formula α) (rest : List (Formula α))

namespace Formula

variable {α : Type} {op : Connective}

/-! ## Splicing -/

/-- The operands that a formula has under a connective; by itself it is a single one. -/
def under (op : Connective) : Formula α → Formula α × List (Formula α)
  | joined inner first rest => if inner = op then (first, rest) else (joined inner first rest, [])
  | f => (f, [])

/-- Two formulas under a connective. Where one of them is under it already, its operands take its
place. -/
def splice (op : Connective) (f g : Formula α) : Formula α :=
  joined op (f.under op).1 ((f.under op).2 ++ (g.under op).1 :: (g.under op).2)

theorem under_joined (first : Formula α) (rest : List (Formula α)) :
    (joined op first rest).under op = (first, rest) :=
  if_pos rfl

theorem under_of_ne {inner : Connective} (h : inner ≠ op) (first : Formula α)
    (rest : List (Formula α)) :
    (joined inner first rest).under op = (joined inner first rest, []) :=
  if_neg h

end Formula

/-- Formulas as the truth values of formulas, with which a reading gives the formula that is
read. -/
def Logic.formulas (α : Type) : Logic (Formula α) where
  negation := .negation
  apply := .splice
  assoc op f g h := by
    simp only [Formula.splice, Formula.under_joined, List.append_assoc, List.cons_append]

namespace Formula

variable {α : Type} {op : Connective}

/-! ## Normal forms -/

mutual

/-- A formula with the operands of a connective spliced into the same connective around it, and
without connectives that have a single operand. -/
def normal : Formula α → Formula α
  | predicate a => predicate a
  | negation f => negation f.normal
  | joined op first rest => (Logic.formulas α).joined op first.normal (normals rest)

def normals : List (Formula α) → List (Formula α)
  | [] => []
  | f :: fs => f.normal :: normals fs

end

/-- Whether a formula stands under the given connective. -/
def isUnder (op : Connective) : Formula α → Bool
  | joined inner _ _ => inner = op
  | _ => false

mutual

/-- Whether all connectives have two or more operands, none of them under the same connective. -/
def isNormal : Formula α → Bool
  | predicate _ => true
  | negation f => f.isNormal
  | joined op first rest =>
    !rest.isEmpty && !first.isUnder op && first.isNormal && areNormalUnder op rest

def areNormalUnder (op : Connective) : List (Formula α) → Bool
  | [] => true
  | f :: fs => !f.isUnder op && f.isNormal && areNormalUnder op fs

end

theorem areNormalUnder_append {fs gs : List (Formula α)} :
    areNormalUnder op (fs ++ gs) = (areNormalUnder op fs && areNormalUnder op gs) := by
  induction fs with
  | nil => rfl
  | cons f fs ih => simp only [List.cons_append, areNormalUnder, ih, Bool.and_assoc]

theorem areNormalUnder_under {f : Formula α} (h : f.isNormal) :
    areNormalUnder op ((f.under op).1 :: (f.under op).2) := by
  cases f with
  | joined inner first rest =>
      by_cases hinner : inner = op
      · subst hinner
        simp only [isNormal, Bool.and_eq_true] at h
        simp only [under_joined, areNormalUnder, Bool.and_eq_true]
        exact ⟨⟨h.1.1.2, h.1.2⟩, h.2⟩
      · simp [under_of_ne hinner, areNormalUnder, isUnder, hinner, h]
  | _ => simpa [under, areNormalUnder, isUnder] using h

theorem isNormal_splice {f g : Formula α} (hf : f.isNormal) (hg : g.isNormal) :
    (splice op f g).isNormal := by
  have hfirst : areNormalUnder op ((f.under op).1 :: (f.under op).2) := areNormalUnder_under hf
  have hsecond : areNormalUnder op ((g.under op).1 :: (g.under op).2) := areNormalUnder_under hg
  simp only [areNormalUnder, Bool.and_eq_true] at hfirst hsecond
  simp only [splice, isNormal, areNormalUnder_append, areNormalUnder, Bool.and_eq_true]
  exact ⟨⟨⟨by simp, hfirst.1.1⟩, hfirst.1.2⟩, hfirst.2, hsecond⟩

mutual

theorem isNormal_normal : (f : Formula α) → f.normal.isNormal
  | predicate _ => rfl
  | negation f => f.isNormal_normal
  | joined op first rest => isNormal_joined op first.isNormal_normal rest

theorem isNormal_joined (op : Connective) : {f : Formula α} → f.isNormal →
    (fs : List (Formula α)) → ((Logic.formulas α).joined op f (normals fs)).isNormal
  | _, hf, [] => hf
  | _, hf, g :: fs => isNormal_splice hf (isNormal_joined op g.isNormal_normal fs)

end

/-! ## Leaves -/

mutual

/-- The predicates of a formula from left to right. -/
def leaves : Formula α → List α
  | predicate a => [a]
  | negation f => f.leaves
  | joined _ first rest => first.leaves ++ leavesIn rest

def leavesIn : List (Formula α) → List α
  | [] => []
  | f :: fs => f.leaves ++ leavesIn fs

end

theorem leavesIn_append (fs gs : List (Formula α)) :
    leavesIn (fs ++ gs) = leavesIn fs ++ leavesIn gs := by
  induction fs with
  | nil => rfl
  | cons f fs ih => simp only [List.cons_append, leavesIn, ih, List.append_assoc]

theorem leaves_under (f : Formula α) :
    (f.under op).1.leaves ++ leavesIn (f.under op).2 = f.leaves := by
  cases f with
  | joined inner first rest =>
      by_cases hinner : inner = op
      · subst hinner
        rw [under_joined, leaves]
      · rw [under_of_ne hinner]
        exact List.append_nil _
  | _ => exact List.append_nil _

theorem leaves_splice (f g : Formula α) : (splice op f g).leaves = f.leaves ++ g.leaves := by
  rw [splice, leaves, leavesIn_append, ← List.append_assoc, leaves_under, leavesIn, leaves_under]

mutual

theorem leaves_normal : (f : Formula α) → f.normal.leaves = f.leaves
  | predicate _ => rfl
  | negation f => f.leaves_normal
  | joined op first rest => by
      rw [normal, leaves_joined op rest, first.leaves_normal, leaves]

theorem leaves_joined (op : Connective) : {f : Formula α} → (fs : List (Formula α)) →
    ((Logic.formulas α).joined op f (normals fs)).leaves = f.leaves ++ leavesIn fs
  | _, [] => (List.append_nil _).symm
  | f, g :: fs => by
      rw [normals, Logic.joined, leavesIn, ← g.leaves_normal, ← leaves_joined op fs]
      exact leaves_splice f _

end

end Formula

/-! ## Readings -/

namespace Lexeme

variable {α β : Type}

def predicate? : Lexeme α → Option α
  | predicate a => some a
  | _ => none

def map (f : α → β) : Lexeme α → Lexeme β
  | opening => opening
  | closing => closing
  | not => not
  | connective op => connective op
  | predicate a => predicate (f a)

end Lexeme

namespace Reads

variable {α β T : Type}

theorem map {logic : Logic T} {assigned : β → T} {f : α → β} {rank : Rank} {ls : List (Lexeme α)}
    {t : T} (h : Reads logic (assigned ∘ f) rank ls t) :
    Reads logic assigned rank (ls.map (.map f)) t := by
  induction h with
  | predicate a => exact .predicate (f a)
  | grouped h ih => simpa [Lexeme.grouped, Lexeme.map] using grouped ih
  | not h ih => exact not ih
  | factor h ih => exact factor ih
  | and h hms ih ihms => simpa [Lexeme.map] using and ih ihms
  | conjunction h ih => exact conjunction ih
  | or h hms ih ihms => simpa [Lexeme.map] using or ih ihms

theorem leaves {rank : Rank} {ls : List (Lexeme α)} {f : Formula α}
    (h : Reads (.formulas α) .predicate rank ls f) : f.leaves = ls.filterMap Lexeme.predicate? := by
  induction h with
  | predicate a => rfl
  | grouped h ih =>
      rw [Lexeme.grouped, List.filterMap_cons_none rfl, List.filterMap_append, ih]
      exact (List.append_nil _).symm
  | not h ih => exact ih
  | factor h ih | conjunction h ih => exact ih
  | and h hms ih ihms | or h hms ih ihms =>
      rw [List.filterMap_append, ← ih]
      exact (Formula.leaves_splice _ _).trans (congrArg _ ihms)

end Reads

/-! ## Formulas of conditions -/

/-- The predicate that a condition is, if it is one over a column. -/
def Condition.predicate? : Condition → Option Predicate
  | .comparison (.text op _) column value _ =>
    column.name?.map fun name => .comparison name.text op value
  | .isNull column (.bool negated) _ => column.name?.map fun name => .isNull name.text negated
  | .between column low high _ => column.name?.map fun name => .between name.text low high
  | .pattern column value (.bool ignoresCase) _ =>
    column.name?.map fun name => .pattern name.text value ignoresCase
  | .membership column (.tuple members _) _ =>
    column.name?.map fun name => .membership name.text members
  | _ => none

/-- A value in the place of a predicate. -/
def Value.predicate (v : Value) : Predicate :=
  match v with
  | .condition c => c.predicate?.getD (.other v)
  | _ => .other v

/-- Operands under a connective. Without operands there is no formula. -/
def Connective.formula? (op : Connective) : List (Formula Predicate) → Option (Formula Predicate)
  | [] => none
  | first :: rest => some (.joined op first rest)

mutual

def Value.formula : Value → Formula Predicate
  | .condition c => c.formula
  | v => .predicate v.predicate

def Value.formulas : List Value → List (Formula Predicate)
  | [] => []
  | v :: vs => v.formula :: Value.formulas vs

def Value.joinedFormula? (op : Connective) : Value → Option (Formula Predicate)
  | .list operands _ => op.formula? (Value.formulas operands)
  | .tuple operands _ => op.formula? (Value.formulas operands)
  | _ => none

/-- What a condition says, in the same tree: a connective for each connective, whatever it has as
operands. -/
def Condition.formula : Condition → Formula Predicate
  | .logical op operands serial =>
    (operands.joinedFormula? op).getD
      (.predicate (Value.condition (.logical op operands serial)).predicate)
  | .negation inner _ => .negation inner.formula
  | c => .predicate (Value.condition c).predicate

end

/-! ## The normal form as a truth value -/

/-- What an occurrence of a predicate says. -/
def Occurrence.formula (o : Occurrence) : Formula Predicate :=
  .predicate o.predicate.predicate

theorem Connective.joined?_normals (op : Connective) (fs : List (Formula Predicate)) :
    (Logic.formulas Predicate).joined? op (Formula.normals fs) =
      (op.formula? fs).map Formula.normal := by
  cases fs <;> rfl

mutual

theorem Value.truth_formulas (place : List Nat) (v : Value) :
    v.truth (.formulas Predicate) Occurrence.formula place = v.formula.normal := by
  cases v with
  | condition c => exact c.truth_formulas place
  | _ => rfl

theorem Value.truths_formulas (place : List Nat) : (position : Nat) → (vs : List Value) →
    Value.truths (.formulas Predicate) Occurrence.formula place position vs =
      Formula.normals (Value.formulas vs)
  | _, [] => rfl
  | position, v :: vs => by
      rw [Value.truths, v.truth_formulas, Value.truths_formulas place (position + 1) vs,
        Value.formulas, Formula.normals]

theorem Value.operandsTruth_formulas (op : Connective) (place : List Nat) (v : Value) :
    v.operandsTruth? (.formulas Predicate) Occurrence.formula op place =
      (v.joinedFormula? op).map Formula.normal := by
  cases v with
  | list operands _ | tuple operands _ =>
      rw [Value.operandsTruth?, Value.truths_formulas place 0 operands, op.joined?_normals,
        Value.joinedFormula?]
  | _ => rfl

/-- Where predicates stand for themselves, the truth value of a condition is the normal form of what
it says. -/
theorem Condition.truth_formulas (place : List Nat) (c : Condition) :
    c.truth (.formulas Predicate) Occurrence.formula place = c.formula.normal := by
  cases c with
  | logical op operands serial =>
      rw [Condition.truth, operands.operandsTruth_formulas, Condition.formula]
      cases operands.joinedFormula? op <;> rfl
  | negation inner serial =>
      rw [Condition.truth, inner.truth_formulas]
      rfl
  | _ => rfl

end

/-- A lexeme of a written condition, with what its predicate says. -/
def Lexeme.said : Lexeme Occurrence → Lexeme Predicate :=
  map fun o => o.predicate.predicate

/-- The lexemes of a condition read as the normal form of what it says. -/
theorem Condition.reads_normal (c : Condition) :
    Reads (.formulas Predicate) .predicate .disjunction ((c.phrase []).map Lexeme.said)
      c.formula.normal := by
  have hreads : Reads (.formulas Predicate) Occurrence.formula .disjunction (c.phrase [])
      c.formula.normal :=
    Condition.reads_iff.mpr (c.truth_formulas []).symm
  exact Reads.map hreads

theorem Condition.predicates_phrase (c : Condition) :
    ((c.phrase []).map Lexeme.said).filterMap Lexeme.predicate? = c.formula.leaves := by
  rw [← c.reads_normal.leaves, Formula.leaves_normal]

end SqlComposer
