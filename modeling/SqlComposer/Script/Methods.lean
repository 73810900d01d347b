import SqlComposer.Script.Functions

/-!
# Methods

What the methods of the language ask of the statement, dialect or registry that they are called on.
-/

namespace SqlComposer.Script

/-- The condition of a clause, and the value that its column is compared with, if one is given. -/
def conditionOf (given : Given) : Eval (Value × Option Value) := do
  return (← given.get 0 "condition", given.get? 1 "value")

/-- The call that a method makes on `target`, a SELECT. -/
def selectCall (target : Value) (method : Method) (given : Given) : Eval Select.Call := do
  match method with
  | .columns => return .columns given.positional
  | .distinct => return .distinct (given.getD 0 "enabled" (.bool true))
  | .source => return .source (← given.get 0 "table") (given.getD 1 "alias" .null)
  | .join (some kind) =>
    return .join (← given.get 0 "table") (← given.get 1 "on") (.keyword (.joinKind kind))
  | .join none =>
    let table ← given.get 0 "table"
    let terms ← given.get 1 "on"
    let kind := given.getD 2 "kind" (.keyword (.joinKind .inner))
    readKind kind
    return .join table terms kind
  | .rows => do
    let (condition, value) ← conditionOf given
    return .rows condition value
  | .groups => do
    let (condition, value) ← conditionOf given
    return .groups condition value
  | .grouping => return .grouping given.positional
  | .order => return .order given.positional
  | .limit => return .limit (← given.get 0 "value")
  | .offset => return .offset (← given.get 0 "value")
  | .forUpdate => return .forUpdate (given.getD 0 "enabled" (.bool true))
  | _ => lacking target method.label

def insertCall (target : Value) (method : Method) (given : Given) : Eval Insert.Call := do
  match method with
  | .into => return .table (← given.get 0 "table")
  | .columns => return .columns given.positional
  | .values => return .rows (← given.get 0 "rows")
  | .insertSource => return .source (← given.get 0 "subselect")
  | .returning => return .returning given.positional
  | _ => lacking target method.label

def updateCall (target : Value) (method : Method) (given : Given) : Eval Update.Call := do
  match method with
  | .table => return .table (← given.get 0 "table_name")
  | .assignments => return .assignments (← given.get 0 "assignments")
  | .rows => do
    let (condition, value) ← conditionOf given
    return .rows condition value
  | .returning => return .returning given.positional
  | _ => lacking target method.label

def deleteCall (target : Value) (method : Method) (given : Given) : Eval Delete.Call := do
  match method with
  | .source => return .table (← given.get 0 "table")
  | .rows => do
    let (condition, value) ← conditionOf given
    return .rows condition value
  | .returning => return .returning given.positional
  | _ => lacking target method.label

/-- A method of a statement gives the statement itself, unless it writes it. -/
def statementMethod (r : StatementRef) (method : Method) (given : Given) : Eval Value := do
  if method = .build then return renderedValue (← renderStatement r .null)
  match r with
  | .bare _ => lacking (.statement r) method.label
  | .select id => callStatement (.select id (← selectCall (.statement r) method given))
  | .insert id => callStatement (.insert id (← insertCall (.statement r) method given))
  | .update id => callStatement (.update id (← updateCall (.statement r) method given))
  | .delete id => callStatement (.delete id (← deleteCall (.statement r) method given))
  return .statement r

def dialectMethod (target : Value) (d : Dialect) (method : Method) (given : Given) :
    Eval Value := do
  match method with
  | .placeholder =>
    let index ← given.get 0 "index"
    match d.style? with
    | none => lacking d.style "token"
    | some style =>
      if style.isNumbered then return .ofText (d.placeholderFor (← displayed index))
      else return .ofToken style
  | .quote =>
    let segment ← given.get 0 "segment"
    if !d.isQuoting then return segment
    match segment.name? with
    | some name => return .ofText (← spelled d [.quoted name])
    | none =>
      let _ ← displayed d.opening
      lacking segment "replace"
  | .withOption =>
    let changed := d.withOption .known (← given.get 0 "name") (← given.get 1 "value")
    return .dialect (← orRefuseOption changed) 0
  | .getOption => orRefuseOption (d.getOption (← given.get 0 "name"))
  | _ => lacking target method.label

def registryMethod (number : Nat) (method : Method) (given : Given) : Eval Value := do
  match method with
  | .setOption =>
    callRegistry .known number (.setOption (← given.get 0 "name") (← given.get 1 "value"))
  | .use => callRegistry .known number (.use (← given.get 0 "dialect"))
  | .reset => callRegistry .known number .reset
  | _ => lacking (.registry number) method.label

def callMethod (target : Value) (method : Method) (given : Given) : Eval Value :=
  match target with
  | .statement r => statementMethod r method given
  | .dialect d _ => dialectMethod target d method given
  | .registry number => registryMethod number method given
  | _ => lacking target method.label

end SqlComposer.Script
