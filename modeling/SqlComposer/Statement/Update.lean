import SqlComposer.Statement.Clause

/-!
# UPDATE statements

The clauses of an UPDATE and the calls that set them. WHERE grows with every call; the other
clauses hold what the last call gave them.
-/

namespace SqlComposer

structure Update where
  dialect : Value := .null
  table : Option Name := none
  assignments : Row := []
  rows : Option Condition := none
  returning : Option (List Column) := none

/-- The assignments that a call gives, as a mapping that must not be empty. -/
def assignmentsOf (given : Value) : Except ClauseError Row :=
  match given with
  | .map [] _ => .error (.assignmentsExpected given)
  | .map entries _ => namedEntries "Update column" entries
  | _ => .error (.assignmentsExpected given)

namespace Update

inductive Call where
  | table (name : Value)
  | assignments (given : Value)
  | rows (condition : Value) (value : Option Value)
  | returning (arguments : List Value)

def call (s : Update) : Call → Outcome Update
  | .table name => .ofChecked s do return { s with table := some (← nameOf "Table name" name) }
  | .assignments given => .ofChecked s do return { s with assignments := ← assignmentsOf given }
  | .rows condition value =>
    .ofChecked s do return { s with rows := ← Condition.afterCall .rows s.rows condition value }
  | .returning arguments =>
    .ofChecked s do
      return { s with returning := some (← Column.ofExpressions "RETURNING" arguments) }

end Update

end SqlComposer
