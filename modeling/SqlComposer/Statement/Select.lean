import SqlComposer.Statement.Clause

/-!
# SELECT statements

The clauses of a SELECT and the calls that set them. WHERE, HAVING and the joins grow with every
call; all other clauses hold what the last call gave them.
-/

namespace SqlComposer

/-- The clauses of a SELECT. Without columns it selects all of them. -/
structure Select where
  dialect : Value := .null
  columns : List Column := []
  distinct : Value := .bool false
  source : Option Source := none
  sourceAlias : Option Name := none
  joins : List Join := []
  rows : Option Condition := none
  grouping : List Column := []
  groups : Option Condition := none
  order : List Column := []
  limit : Option Nat := none
  offset : Option Nat := none
  forUpdate : Value := .bool false

namespace Select

inductive Call where
  | columns (arguments : List Value)
  | distinct (enabled : Value)
  | source (table sourceAlias : Value)
  | join (table terms kind : Value)
  | rows (condition : Value) (value : Option Value)
  | grouping (arguments : List Value)
  | groups (condition : Value) (value : Option Value)
  | order (arguments : List Value)
  | limit (count : Value)
  | offset (count : Value)
  | forUpdate (enabled : Value)

/-- An entry of the select list of the statement `own`, which may not be its own column. -/
def columnOf (own : SelectId) (given : Value) : Except ClauseError Column :=
  match given.select? with
  | some id => if id = own then .error .ownColumn else .ok (.subselect id)
  | none =>
    match given.raw? with
    | some fragment => .ok (.raw fragment)
    | none => do return .named (← nameOf "Select column" given)

/-- Sets the source. A subselect becomes the source before its alias is checked. -/
def setSource (own : SelectId) (table sourceAlias : Value) (s : Select) : Outcome Select :=
  match table.select? with
  | some id =>
    if id = own then ⟨s, some .ownSource⟩
    else
      let s := { s with source := some (.subselect id) }
      .ofChecked s do
        return { s with sourceAlias := some (← nameOf "Subselect alias" sourceAlias) }
  | none =>
    .ofChecked s do
      return { s with source := some (.table (← nameOf "Table name" table)), sourceAlias := none }

/-- Carries out a call on the clauses `s` of the statement `own`. -/
def call (own : SelectId) (s : Select) : Call → Outcome Select
  | .columns arguments =>
    .ofChecked s do return { s with columns := ← (flattened arguments).mapM (columnOf own) }
  | .distinct enabled => ⟨{ s with distinct := enabled }, none⟩
  | .source table sourceAlias => s.setSource own table sourceAlias
  | .join table terms kind =>
    .ofChecked s do return { s with joins := s.joins ++ [← Join.make table terms kind] }
  | .rows condition value =>
    .ofChecked s do return { s with rows := ← Condition.afterCall .rows s.rows condition value }
  | .grouping arguments =>
    .ofChecked s do return { s with grouping := ← Column.ofExpressions "GROUP BY" arguments }
  | .groups condition value =>
    .ofChecked s do
      return { s with groups := ← Condition.afterCall .groups s.groups condition value }
  | .order arguments =>
    .ofChecked s do return { s with order := ← Column.ofExpressions "ORDER BY" arguments }
  | .limit count => .ofChecked s do return { s with limit := ← countOf "LIMIT" count }
  | .offset count => .ofChecked s do return { s with offset := ← countOf "OFFSET" count }
  | .forUpdate enabled => ⟨{ s with forUpdate := enabled }, none⟩

end Select

end SqlComposer
