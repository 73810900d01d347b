import SqlComposer.Statement.Clause

/-!
# DELETE statements

The clauses of a DELETE and the calls that set them. WHERE grows with every call; the other clauses
hold what the last call gave them.
-/

namespace SqlComposer

structure Delete where
  dialect : Value := .null
  table : Option Name := none
  rows : Option Condition := none
  returning : Option (List Column) := none

namespace Delete

inductive Call where
  | table (name : Value)
  | rows (condition : Value) (value : Option Value)
  | returning (arguments : List Value)

def call (s : Delete) : Call → Outcome Delete
  | .table name => .ofChecked s do return { s with table := some (← nameOf "Table name" name) }
  | .rows condition value =>
    .ofChecked s do return { s with rows := ← Condition.afterCall .rows s.rows condition value }
  | .returning arguments =>
    .ofChecked s do
      return { s with returning := some (← Column.ofExpressions "RETURNING" arguments) }

end Delete

end SqlComposer
