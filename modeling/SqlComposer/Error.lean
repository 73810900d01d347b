import SqlComposer.Value

/-!
# Causes of failure

Each way in which a clause, a statement or an option is refused, with what the message about it
needs to say. A message is made of words and of values that it quotes. How a value looks inside it
is for the caller to decide, since a statement shows its state at that moment.
-/

namespace SqlComposer

/-- The clauses that take a condition: one picks rows, the other picks groups of rows. -/
inductive ConditionClause where
  | rows
  | groups
deriving DecidableEq

def ConditionClause.text : ConditionClause → String
  | .rows => "WHERE"
  | .groups => "HAVING"

/-- Why a clause or a statement is refused. -/
inductive ClauseError where
  | columnExpected (given : Value)
  | unknownComparison (given : Value)
  | unknownConnective (given : Value)
  | nothingToJoin (op : Connective)
  /-- A list of values to look up is neither a collection nor a subselect. -/
  | membersExpected (given : Value)
  /-- A list of values to look up has none. -/
  | noMembers (column : Value)
  /-- Something else than a SELECT is asked for its rows. -/
  | subselectExpected (given : Value)
  | fragmentExpected (given : Value)
  /-- The values of a raw fragment are no sequence. -/
  | fragmentValuesExpected (given : Value)
  | markerMismatch (markers values : Nat) (text : Name)
  | emptyConditionMapping
  | conditionExpected (given : Value)
  /-- A value is given to compare with, but no column. -/
  | columnBeforeValueExpected (clause : ConditionClause) (given : Value)
  /-- A condition is given as plain text. -/
  | bareText (clause : ConditionClause) (given : Name)
  /-- A name is missing or blank; `what` says what it would name. -/
  | nameExpected (what : String) (given : Value)
  | ownColumn
  | ownSource
  | unknownJoinKind (given : Value)
  | noJoinPairs
  /-- A join is given neither pairs of columns nor a condition. -/
  | joinConditionExpected (given : Value)
  /-- A count is no whole number, or a negative one. -/
  | countExpected (clause : String) (given : Value)
  | repeatedColumns (names : List Name)
  /-- A row has other columns than expected. -/
  | rowMismatch (row : Nat) (columns expected : List Name)
  /-- An INSERT has rows, and gets a subselect, or the other way round. -/
  | rowsAndSubselect
  /-- The rows of an INSERT are neither a mapping nor a sequence. -/
  | rowsExpected (given : Value)
  /-- A row is no mapping, or an empty one. -/
  | rowExpected (given : Value)
  /-- An INSERT gets its rows from something else than a SELECT. -/
  | sourceSelectExpected (given : Value)
  /-- The assignments of an UPDATE are no mapping, or an empty one. -/
  | assignmentsExpected (given : Value)
  | insertWithoutTable
  | insertWithoutRows
  | cellMissing (column : Name)
  | updateWithoutTable
  | updateWithoutAssignments
  | deleteWithoutTable
  | nestedInItself
  /-- Something that is no condition stands for one. -/
  | unknownCondition (kind : String)
  | unknownStatement (kind : String)
  /-- A value is asked for a part that it lacks. -/
  | partMissing (given : Value) (part : String)

/-- Why an option is refused. -/
inductive OptionError where
  | unknownOption (given : Value)
  | unknownStyle (given : Value)
  | badQuote (given : Value)
  | switchExpected (option given : Value)
  | unknownDialect (given : Value)
  /-- A value is asked for a part that it lacks. -/
  | partMissing (given : Value) (part : String)

/-! ## Wording -/

inductive MessagePart where
  | words (text : String)
  | quoted (v : Value)

instance : Coe String MessagePart := ⟨.words⟩

instance : Coe Value MessagePart := ⟨.quoted⟩

/-- A message, its words and the values it quotes. -/
abbrev Message := List MessagePart

/-- A message as a text, with `shown` to show the values inside it. -/
def Message.text {m : Type → Type} [Monad m] (shown : Value → m String) :
    Message → m String
  | [] => return ""
  | .words text :: parts => do return text ++ (← Message.text shown parts)
  | .quoted v :: parts => do return (← shown v) ++ (← Message.text shown parts)

/-- Names in brackets, as messages list them. -/
def Value.ofNames (names : List Name) : Value :=
  .list (names.map Value.ofName) 0

def missingPart (given : Value) (part : String) : String :=
  "'" ++ given.kindName ++ "' object has no attribute '" ++ part ++ "'"

def ClauseError.message : ClauseError → Message
  | .columnExpected given => ["Column reference must be a non-empty string, got ", given]
  | .unknownComparison given => ["Unsupported comparison operator: ", given]
  | .unknownConnective given =>
    ["Unsupported logical operator ", given, ". Expected one of: AND, OR"]
  | .nothingToJoin op => [op.text, " requires at least one condition"]
  | .membersExpected given =>
    ["IN values must be a sequence of values or a subselect, got ", given]
  | .noMembers column => ["IN clause for column ", column, " requires at least one value"]
  | .subselectExpected given => ["EXISTS requires a select builder, got ", given]
  | .fragmentExpected given => ["Raw SQL must be a string, got ", given]
  | .fragmentValuesExpected given => ["Raw SQL values must be a sequence, got ", given]
  | .markerMismatch markers values text =>
    ["Raw SQL has ", toString markers, " placeholder marker(s) but ", toString values,
      " value(s): ", Value.ofName text]
  | .emptyConditionMapping => ["Condition mapping must contain at least one column"]
  | .conditionExpected given =>
    ["Expected a condition or a mapping of column to value, got ", given]
  | .columnBeforeValueExpected clause given =>
    [clause.text, " with a value expects a column name first, got ", given]
  | .bareText clause given =>
    [clause.text, " does not accept bare SQL strings; use raw(", Value.ofName given, ") instead"]
  | .nameExpected what given => [what, " must be a non-empty string, got ", given]
  | .ownColumn => ["A select cannot use itself as a column subquery"]
  | .ownSource => ["A select cannot use itself as its source"]
  | .unknownJoinKind given => ["Unsupported join type: ", given]
  | .noJoinPairs => ["JOIN ... ON requires at least one column pair"]
  | .joinConditionExpected given =>
    ["JOIN ... ON expects a mapping of left column to right column or a condition, got ", given]
  | .countExpected clause given => [clause, " must be a non-negative integer, got ", given]
  | .repeatedColumns names => ["Insert columns must be unique, got ", Value.ofNames names]
  | .rowMismatch row columns expected =>
    ["INSERT row ", toString row, " has columns ", Value.ofNames columns, ", expected ",
      Value.ofNames expected]
  | .rowsAndSubselect => ["INSERT cannot have both row values and a subselect"]
  | .rowsExpected given =>
    ["INSERT values must be a mapping or a non-empty sequence of mappings, got ", given]
  | .rowExpected given => ["INSERT row must be a non-empty mapping of column to value, got ", given]
  | .sourceSelectExpected given => ["INSERT ... SELECT expects a select builder, got ", given]
  | .assignmentsExpected given =>
    ["UPDATE ... SET requires a non-empty mapping of column to value, got ", given]
  | .insertWithoutTable => ["INSERT requires a target table; call into() first"]
  | .insertWithoutRows => ["INSERT requires either row values or a subselect"]
  | .cellMissing column => [Value.ofName column]
  | .updateWithoutTable => ["UPDATE requires a target table"]
  | .updateWithoutAssignments => ["UPDATE requires at least one SET assignment; call set() first"]
  | .deleteWithoutTable => ["DELETE requires a target table"]
  | .nestedInItself => ["SELECT builder is nested inside itself; subselects must not form a cycle"]
  | .unknownCondition kind => ["Cannot render condition of type ", kind]
  | .unknownStatement kind => ["Cannot render statement of type ", kind]
  | .partMissing given part => [missingPart given part]

def OptionError.message : OptionError → Message
  | .unknownOption given =>
    ["Unknown dialect option: ", given, ". Expected one of: dialect, ",
      "parameterizeLimits, parameterize_limits, placeholder, quoteChar, quote_char"]
  | .unknownStyle given =>
    ["Unsupported placeholder style: ", given, ". Expected one of: ",
      ", ".intercalate (PlaceholderStyle.all.map PlaceholderStyle.token)]
  | .badQuote given =>
    ["Unsupported quote character: ", given, ". Expected a single punctuation character or None"]
  | .switchExpected option given => ["Option ", option, " expects a bool, got ", given]
  | .unknownDialect given => ["Unsupported dialect name: ", given]
  | .partMissing given part => [missingPart given part]

end SqlComposer
