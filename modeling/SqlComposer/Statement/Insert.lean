import SqlComposer.Statement.Clause

/-!
# INSERT statements

The clauses of an INSERT and the calls that set them. The rows are given as mappings that agree on
their columns, or come from a subselect, never both.
-/

namespace SqlComposer

structure Insert where
  dialect : Value := .null
  table : Option Name := none
  columns : List Name := []
  rows : List Row := []
  source : Option SelectId := none
  returning : Option (List Column) := none

def Row.columns (row : Row) : List Name :=
  row.map Prod.fst

def Row.value? (row : Row) (column : Name) : Option Value :=
  (row.find? fun entry => entry.1.text = column.text).map Prod.snd

/-- Whether two lists hold the same names, whatever the order. -/
def sameNames (first second : List Name) : Bool :=
  first.all (fun name => second.any (·.text = name.text)) &&
    second.all (fun name => first.any (·.text = name.text))

/-- Names in ascending order of their texts. -/
def sortedNames (names : List Name) : List Name :=
  names.mergeSort fun first second => decide (first.text ≤ second.text)

/-- Checks that every row has exactly the given columns, starting with the row of number `start`. -/
def checkRowsFrom (columns : List Name) : Nat → List Row → Except ClauseError Unit
  | _, [] => .ok ()
  | start, row :: rows =>
    if sameNames row.columns columns then checkRowsFrom columns (start + 1) rows
    else .error (.rowMismatch start (sortedNames row.columns) (sortedNames columns))

def checkRows (rows : List Row) (columns : List Name) : Except ClauseError Unit :=
  checkRowsFrom columns 0 rows

/-- One row, which must be a mapping and must not be empty. -/
def rowOf (given : Value) : Except ClauseError Row :=
  match given with
  | .map [] _ => .error (.rowExpected given)
  | .map entries _ => namedEntries "Insert column" entries
  | _ => .error (.rowExpected given)

/-- The rows that a call gives: one mapping, or the items of a list. -/
def rowArguments (given : Value) : Except ClauseError (List Value) :=
  match given with
  | .map _ _ => .ok [given]
  | _ =>
    match given.items? with
    | some (first :: rest) => .ok (first :: rest)
    | _ => .error (.rowsExpected given)

namespace Insert

inductive Call where
  | table (name : Value)
  | columns (arguments : List Value)
  | rows (given : Value)
  | source (subselect : Value)
  | returning (arguments : List Value)

/-- The columns in the order in which they are written: those asked for or, without any, those of
the first row. -/
def columnNames (s : Insert) : List Name :=
  if s.columns.isEmpty then
    match s.rows with
    | row :: _ => row.columns
    | [] => []
  else s.columns

/-- Sets the columns. They must differ, and be those of the rows if there are any. -/
def setColumns (s : Insert) (arguments : List Value) : Except ClauseError Insert := do
  let names ← (flattened arguments).mapM (nameOf "Insert column")
  if !decide (names.map Name.text).Nodup then throw (.repeatedColumns names)
  checkRows s.rows names
  return { s with columns := names }

/-- Sets the rows. They must agree with the columns or, without any, with the first of them. -/
def setRows (s : Insert) (given : Value) : Except ClauseError Insert := do
  if s.source.isSome then throw .rowsAndSubselect
  let rows ← (← rowArguments given).mapM rowOf
  checkRows rows { s with rows }.columnNames
  return { s with rows }

/-- Sets the subselect that the rows come from. -/
def setSource (s : Insert) (subselect : Value) : Except ClauseError Insert := do
  if !s.rows.isEmpty then throw .rowsAndSubselect
  match subselect.select? with
  | some id => return { s with source := some id }
  | none => throw (.sourceSelectExpected subselect)

def call (s : Insert) : Call → Outcome Insert
  | .table name => .ofChecked s do return { s with table := some (← nameOf "Table name" name) }
  | .columns arguments => .ofChecked s (s.setColumns arguments)
  | .rows given => .ofChecked s (s.setRows given)
  | .source subselect => .ofChecked s (s.setSource subselect)
  | .returning arguments =>
    .ofChecked s do
      return { s with returning := some (← Column.ofExpressions "RETURNING" arguments) }

end Insert

end SqlComposer
