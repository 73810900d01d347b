import SqlComposer.Condition
import SqlComposer.Value.Display

/-!
# Clauses

The parts that several kinds of statement share, and the checks that turn arguments into them.
-/

namespace SqlComposer

/-! ## Parts of clauses -/

/-- An entry of a select list, or an expression to group by, to order by or to return. -/
inductive Column where
  | named (name : Name)
  | raw (fragment : Raw)
  | subselect (id : SelectId)

/-- What rows of two tables must meet to be joined: columns that are equal in pairs, or any
condition. -/
inductive JoinTerms where
  | pairs (columns : List (Name × Name))
  | condition (c : Condition)

structure Join where
  kind : JoinKind
  table : Name
  terms : JoinTerms

/-- Where a SELECT takes its rows from. -/
inductive Source where
  | table (name : Name)
  | subselect (id : SelectId)

/-- One row to insert: values under the names of their columns, in order. -/
abbrev Row := List (Name × Value)

/-! ## Checks -/

/-- A name, which must not be blank; `what` says what it names. -/
def nameOf (what : String) (given : Value) : Except ClauseError Name :=
  match given.visibleName? with
  | some name => .ok name
  | none => .error (.nameExpected what given)

/-- A raw fragment or a name, as an expression of the clause that starts with the given words. -/
def Column.ofExpression (clause : String) (given : Value) : Except ClauseError Column :=
  match given.raw? with
  | some fragment => .ok (.raw fragment)
  | none => do return .named (← nameOf (clause ++ " expression") given)

/-- The expressions of a clause, given one by one or as one list. -/
def Column.ofExpressions (clause : String) (arguments : List Value) :
    Except ClauseError (List Column) :=
  (flattened arguments).mapM (Column.ofExpression clause)

/-- A mapping of names to values, with every name checked. -/
def namedEntries (what : String) (entries : List (Value × Value)) : Except ClauseError Row :=
  entries.mapM fun entry => do return (← nameOf what entry.1, entry.2)

/-- A count; null takes it away. -/
def countOf (clause : String) (given : Value) : Except ClauseError (Option Nat) :=
  match given with
  | .null => .ok none
  | .int (.ofNat n) _ => .ok (some n)
  | _ => .error (.countExpected clause given)

/-- The kind of join that a value names, as such or by its text. What has no text of its own is not
written like a kind either. -/
def JoinKind.ofValue (given : Value) : Except ClauseError JoinKind :=
  match given with
  | .keyword (.joinKind kind) => .ok kind
  | _ =>
    match given.ownText?.bind JoinKind.parse? with
    | some kind => .ok kind
    | none => .error (.unknownJoinKind given)

/-- The terms of a join, as a condition or as a mapping of columns to columns. -/
def JoinTerms.ofValue (given : Value) : Except ClauseError JoinTerms :=
  match given with
  | .condition c => .ok (.condition c)
  | .map [] _ => .error .noJoinPairs
  | .map entries _ => do
    return .pairs <| ← entries.mapM fun entry => do
      return (← nameOf "Join column" entry.1, ← nameOf "Join column" entry.2)
  | _ => .error (.joinConditionExpected given)

/-- A join from its kind, its table and its terms, checked in this order. -/
def Join.make (table terms kind : Value) : Except ClauseError Join := do
  let kind ← JoinKind.ofValue kind
  let table ← nameOf "Join table" table
  return ⟨kind, table, ← JoinTerms.ofValue terms⟩

/-! ## Outcomes -/

/-- What a call leaves behind: the state after it, and the cause if it was refused. -/
structure Outcome (σ : Type) where
  state : σ
  refusal : Option ClauseError := none

def Outcome.ofChecked {σ : Type} (before : σ) : Except ClauseError σ → Outcome σ
  | .ok after => ⟨after, none⟩
  | .error cause => ⟨before, some cause⟩

end SqlComposer
