import SqlComposer.Error

/-!
# Making conditions

Each function checks what it is given and gives a condition or the cause of its refusal. A mapping
may stand for a condition: every column equals its value.
-/

namespace SqlComposer

/-! ## Parts -/

def comparisonOperators : List String :=
  ["=", "<>", "<", "<=", ">", ">="]

/-- A column, which must be a name and not blank. -/
def columnOf (given : Value) : Except ClauseError Value :=
  if given.visibleName?.isSome then .ok given else .error (.columnExpected given)

def comparisonOf (given : Value) : Except ClauseError Value :=
  match given with
  | .text op _ =>
    if op ∈ comparisonOperators then .ok given else .error (.unknownComparison given)
  | _ => .error (.unknownComparison given)

/-- The arguments of a function that takes either several of them or one list of them. -/
def flattened : List Value → List Value
  | [.list items _] => items
  | [.tuple items _] => items
  | arguments => arguments

namespace Raw

def fragments (fragment : Raw) : List String :=
  Text.splitAt '?' fragment.text.text

def markerCount (s : String) : Nat :=
  s.toList.count '?'

/-- A raw fragment with one value for each marker, its values as they are given. -/
def assemble (text values : Value) : Except ClauseError Raw :=
  match text.name? with
  | none => .error (.fragmentExpected text)
  | some name =>
    match values.size? with
    | none => .error (.fragmentValuesExpected values)
    | some count =>
      if markerCount name.text = count then .ok ⟨name, values, 0⟩
      else .error (.markerMismatch (markerCount name.text) count name)

/-- What passes the check is a text with a value for each of its markers. -/
theorem assemble_ok {text values : Value} {fragment : Raw}
    (h : assemble text values = .ok fragment) :
    ∃ name, values.size? = some (markerCount name.text) ∧ fragment = ⟨name, values, 0⟩ := by
  unfold assemble at h
  split at h
  · cases h
  · rename_i name _
    split at h
    · cases h
    · rename_i count hcount
      split at h
      · rename_i hmarkers
        cases h
        exact ⟨name, hcount.trans (congrArg some hmarkers.symm), rfl⟩
      · cases h

theorem assemble_of_size? {name : Name} {values : Value}
    (h : values.size? = some (markerCount name.text)) :
    assemble (.ofName name) values = .ok ⟨name, values, 0⟩ := by
  simp only [assemble, Value.name?_ofName, h, if_true]

/-- A raw fragment with the members of any collection as its values. -/
def make (text values : Value) : Except ClauseError Raw :=
  match values.collected? with
  | some members => assemble text members
  | none => .error (.fragmentValuesExpected values)

end Raw

namespace Condition

/-! ## Single columns -/

def compare (op column value : Value) : Except ClauseError Condition := do
  let op ← comparisonOf op
  let column ← columnOf column
  return .comparison op column value 0

def equals (column value : Value) : Except ClauseError Condition :=
  compare (.ofText "=") column value

def null (column : Value) (negated : Bool) : Except ClauseError Condition := do
  return .isNull (← columnOf column) (.bool negated) 0

def within (column low high : Value) : Except ClauseError Condition := do
  return .between (← columnOf column) low high 0

/-- The column matches a pattern, perhaps in any letter case. -/
def matching (column value : Value) (ignoresCase : Bool) : Except ClauseError Condition := do
  return .pattern (← columnOf column) value (.bool ignoresCase) 0

/-- The collection that a column is looked up in. A mapping is none. -/
def membersOf (given : Value) : Except ClauseError Value :=
  match given with
  | .map _ _ => .error (.membersExpected given)
  | _ =>
    match given.collected? with
    | some members => .ok members
    | none => .error (.membersExpected given)

/-- The column is one of the members of a collection, or one of the rows of a subselect. -/
def isIn (column members : Value) : Except ClauseError Condition := do
  let column ← columnOf column
  if members.select?.isSome then return .membership column members 0
  let members ← membersOf members
  if members.isTruthy then return .membership column members 0
  else throw (.noMembers column)

/-! ## Subselects and raw fragments -/

def hasRows (subselect : Value) (negated : Bool) : Except ClauseError Condition :=
  if subselect.select?.isSome then .ok (.existence subselect (.bool negated) 0)
  else .error (.subselectExpected subselect)

/-! ## Connectives -/

/-- Operands under a connective; there must be some. -/
def joined (op : Connective) (operands : Value) : Except ClauseError Condition :=
  if operands.isTruthy then .ok (.logical op operands 0) else .error (.nothingToJoin op)

def ofConditions (op : Connective) (conditions : List Condition) : Except ClauseError Condition :=
  joined op (.tuple (conditions.map .condition) 0)

/-- The connective that a value spells. -/
def connectiveOf (given : Value) : Except ClauseError Connective :=
  match given with
  | .text "AND" _ => .ok .and
  | .text "OR" _ => .ok .or
  | _ => .error (.unknownConnective given)

/-- Every column of a mapping equals its value, in the order of the mapping. -/
def ofEntries (entries : List (Value × Value)) : Except ClauseError Condition := do
  ofConditions .and (← entries.mapM fun entry => equals entry.1 entry.2)

/-- A condition as it is, or the equalities that a mapping stands for. -/
def ofArgument : Value → Except ClauseError Condition
  | .condition c => .ok c
  | .map [] _ => .error .emptyConditionMapping
  | .map entries _ => ofEntries entries
  | given => .error (.conditionExpected given)

/-- The arguments, or the members of the one list they are, under a connective. -/
def connect (op : Connective) (arguments : List Value) : Except ClauseError Condition := do
  ofConditions op (← (flattened arguments).mapM ofArgument)

def opposite (argument : Value) : Except ClauseError Condition := do
  return .negation (.condition (← ofArgument argument)) 0

/-- Narrows a clause that may have no condition yet. -/
def narrow (prior : Option Condition) (c : Condition) : Condition :=
  match prior with
  | none => c
  | some prior => .logical .and (.tuple [.condition prior, .condition c] 0) 0

/-! ## Clauses -/

/-- The condition that a clause is called with: a column with a value that it equals, or a condition
on its own. -/
def ofCall (clause : ConditionClause) (argument : Value) (value : Option Value) :
    Except ClauseError Condition :=
  match value with
  | some value =>
    match argument.name? with
    | some _ => equals argument value
    | none => .error (.columnBeforeValueExpected clause argument)
  | none =>
    match argument.name? with
    | some text => .error (.bareText clause text)
    | none => ofArgument argument

/-- A clause after one more call: the new condition narrows the one that it has. -/
def afterCall (clause : ConditionClause) (prior : Option Condition) (argument : Value)
    (value : Option Value) : Except ClauseError (Option Condition) := do
  return some (narrow prior (← ofCall clause argument value))

end Condition

end SqlComposer
