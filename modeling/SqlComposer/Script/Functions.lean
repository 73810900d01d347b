import SqlComposer.Dialect.Known
import SqlComposer.Script.Session
import SqlComposer.Value.Equality
import SqlComposer.Value.Field

/-!
# Functions and methods

What the functions and methods of the language do with their arguments.
-/

namespace SqlComposer.Script

/-! ## Arguments -/

structure Given where
  positional : List Value
  named : List (String × Value)

namespace Given

/-- The argument at a position or with a name. -/
def get? (given : Given) (position : Nat) (name : String) : Option Value :=
  match given.positional[position]? with
  | some v => some v
  | none => given.named.lookup name

/-- The argument at a position or with a name, or else a default. -/
def getD (given : Given) (position : Nat) (name : String) (default : Value) : Value :=
  (given.get? position name).getD default

/-- The argument at a position or with a name, which has to be there. -/
def get (given : Given) (position : Nat) (name : String) : Eval Value :=
  match given.get? position name with
  | some v => return v
  | none => misuse ("missing argument: " ++ name)

def getName (given : Given) (position : Nat) (name : String) : Eval Name := do
  match (← given.get position name).name? with
  | some n => return n
  | none => misuse ("not a text: " ++ name)

/-- A dialect; the one in use unless another is given. -/
def getDialect (given : Given) (position : Nat) (name : String) : Eval Value := do
  return (given.getD position name .null).orElse (← MonadState.get).dialectInUse

end Given

/-! ## Statements -/

/-- Calls for the first clause of a new statement. -/
def startWith (r : StatementRef) (call : Option Store.Call) : Eval Value := do
  call.forM callStatement
  return .statement r

def select (given : Given) : Eval Value := do
  let id ← startSelect (given.getD given.positional.length "dialect" .null)
  startWith (.select id) <|
    if given.positional.isEmpty then none else some (.select id (.columns given.positional))

def insert (given : Given) : Eval Value := do
  let id ← startInsert (given.getD 1 "dialect" .null)
  startWith (.insert id) <|
    match given.getD 0 "table" .null with
    | .null => none
    | table => some (.insert id (.table table))

def update (given : Given) : Eval Value := do
  let table ← given.get 0 "table"
  let id ← startUpdate (given.getD 1 "dialect" .null)
  startWith (.update id) (some (.update id (.table table)))

def delete (given : Given) : Eval Value := do
  let table ← given.get 0 "table"
  let id ← startDelete (given.getD 1 "dialect" .null)
  startWith (.delete id) (some (.delete id (.table table)))

/-! ## Conditions -/

def made (result : Except ClauseError Condition) : Eval Value := do
  return .condition (← orRefuse result)

/-- The column is one of the members of a collection; a stream is gone through once the column is
found to be good. -/
def isIn (given : Given) : Eval Value := do
  let column ← given.get 0 "column"
  let members ← given.get 1 "values"
  let _ ← orRefuse (columnOf column)
  made (Condition.isIn column (← taken members))

def raw (given : Given) : Eval Value := do
  let text ← given.get 0 "text"
  let values ← taken (given.getD 1 "values" (.tuple [] 0))
  return .condition (.raw (← orRefuse (Raw.make text values)))

def narrow (given : Given) : Eval Value := do
  let condition ← given.get 1 "condition"
  match ← given.get 0 "prior" with
  | .null => return condition
  | prior => return .condition (.logical .and (.tuple [prior, condition] 0) 0)

/-- A connective node; its operands may be anything that counts as true. -/
def logicalNode (given : Given) : Eval Value := do
  let op ← orRefuse (Condition.connectiveOf (← given.get 0 "op"))
  made (Condition.joined op (← given.get 1 "operands"))

/-- A raw fragment node; its values may be anything with a count of members. -/
def rawNode (given : Given) : Eval Value := do
  let text ← given.get 0 "text"
  return .condition (.raw (← orRefuse (Raw.assemble text (given.getD 1 "values" (.tuple [] 0)))))

/-! ## Dialects -/

def dialect (given : Given) : Value :=
  .dialect {
    style := given.getD 0 "parameter_style" Dialect.standard.style
    opening := given.getD 1 "quote_char" Dialect.standard.opening
    closing := given.getD 2 "quote_end" Dialect.standard.closing
    bindsCounts := given.getD 3 "parameterize_limits" Dialect.standard.bindsCounts
    name := given.getD 4 "name" Dialect.standard.name
  } 0

/-- A registry that holds the given dialect, or the default one. -/
def registry (given : Given) : Eval Value := do
  let held := given.getD 0 "dialect" .standardDialect
  let s ← get
  set { s with registries := s.registries ++ [held] }
  return .registry s.registries.length

/-! ## Writing -/

def render (given : Given) : Eval Value := do
  let asked := given.getD 1 "dialect" .null
  match ← given.get 0 "statement" with
  | .statement r => return renderedValue (← renderStatement r asked)
  | other =>
    if asked.isTruthy || (other.field? "dialect").isSome then
      orRefuse (.error (.unknownStatement other.kindName))
    else lacking other "dialect"

/-- A name as an identifier of a dialect; one that is not quoted stays as it is. -/
def renderIdentifier (given : Given) : Eval Value := do
  let d ← orRefuseOption ((← given.getDialect 1 "dialect").dialectFor "quote_char")
  let v ← given.get 0 "name"
  if !d.isQuoting then return v
  match v.name? with
  | none => misuse "not a text: name"
  | some name =>
    if Identifier.isQuotable name.text.toList then
      return .ofText (← spelled d (d.identifierParts name))
    else return v

/-- A condition as it is written behind values that are bound before. -/
def renderCondition (given : Given) : Eval Value := do
  let condition ← given.get 0 "condition"
  let dialect ← given.getDialect 1 "dialect"
  let bound := (given.getD 2 "bound" .null).orElse (.list [] 0)
  if bound.members?.isNone then misuse "not a collection: bound"
  return renderedValue <| ← writing fun s =>
    s.store.renderCondition s.dialectInUse dialect bound condition

/-! ## Single arguments -/

/-- Makes a text of what may name a kind of join, as long as it is not one itself. -/
def readKind (kind : Value) : Eval Unit :=
  match kind with
  | .keyword (.joinKind _) => return ()
  | _ => do let _ ← displayed kind

/-- A name that is checked; the second argument says what it names. -/
def checkName (given : Given) : Eval Value := do
  let value ← given.get 0 "value"
  match value.visibleName? with
  | some _ => return value
  | none => orRefuse (.error (.nameExpected (← displayed (← given.get 1 "what")) value))

def flatten (given : Given) : Eval Value := do
  let arguments ← given.get 0 "args"
  match arguments.only?.bind Value.items? with
  | some items => return .list items 0
  | none =>
    if arguments.size?.isSome then return .list (arguments.members?.getD []) 0
    else misuse "not a sequence: args"

def logger (given : Given) : Eval Value := do
  match given.getD 0 "name" .null with
  | .null => return .ofText (loggerName none)
  | v =>
    match v.name? with
    | some name => return .ofText (loggerName (some name))
    | none => lacking v "startswith"

/-- The texts of those values that count as true. -/
def remarksOf (values : List Value) : Eval (List String) :=
  (values.filter Value.isTruthy).mapM displayed

/-- A failure with a description; one that is not told anything describes itself. -/
def problem (kind : ProblemKind) (given : Given) : Eval Value := do
  match kind with
  | .general =>
    let remarks ← remarksOf given.positional
    let detail := (given.named.lookup "detail").getD (.ofText "")
    return .problem (.ofRemarks kind remarks detail) 0
  | _ =>
    let remarks ← match given.getD 0 "message" .null with
      | .null => pure [kind.defaultDetail]
      | message => remarksOf [message]
    return .problem (.ofRemarks kind remarks (.ofText "")) 0

/-! ## Looking into values -/

def partOf (given : Given) : Eval Value := do
  let target ← given.get 0 "object"
  let name := (← given.getName 1 "name").text
  match target, name with
  | .statement (.insert id), "column_names" =>
    return .list (((← get).store.insert id).columnNames.map Value.ofName) 0
  | .statement r, "dialect" => return (← get).store.dialectOf r
  | .registry number, "current" => return (← get).registry number
  | _, _ =>
    match target.field? name with
    | some part => return part
    | none => lacking target name

/-- The text and the values of what has been written, or the two members of anything else. -/
def unpack (given : Given) : Eval Value := do
  match (← taken (← given.get 0 "built")).members? with
  | some [first, second] => return .list [first, second] 0
  | _ => misuse "not a written statement: built"

def showValue (given : Given) : Eval Value := do
  match ← given.get 0 "x" with
  | .bool b => return .ofTruth b
  | v => return .ofText (← shown v)

/-- A value as a text; a text stays itself. -/
def displayValue (given : Given) : Eval Value := do
  match ← given.get 0 "x" with
  | .bool b => return .ofTruth b
  | .text s serial => return .text s serial
  | v => return .ofText (← displayed v)

/-! ## All functions -/

def callFunction (function : Function) (given : Given) : Eval Value := do
  match function with
  | .startSelect => select given
  | .startInsert => insert given
  | .startUpdate => update given
  | .startDelete => delete given
  | .emptyBare => return .statement (← startBare (given.getD 0 "dialect" .null))
  | .emptySelect => return .statement (.select (← startSelect (given.getD 0 "dialect" .null)))
  | .emptyInsert => return .statement (.insert (← startInsert (given.getD 0 "dialect" .null)))
  | .emptyUpdate => return .statement (.update (← startUpdate (given.getD 0 "dialect" .null)))
  | .emptyDelete => return .statement (.delete (← startDelete (given.getD 0 "dialect" .null)))
  | .comparison op =>
    made (Condition.compare (.ofText op) (← given.get 0 "column") (← given.get 1 "value"))
  | .comparisonBy =>
    made (Condition.compare (← given.get 0 "op") (← given.get 1 "column") (← given.get 2 "value"))
  | .null negated => made (Condition.null (← given.get 0 "column") negated)
  | .between =>
    made (Condition.within (← given.get 0 "column") (← given.get 1 "low") (← given.get 2 "high"))
  | .pattern ignoresCase =>
    made (Condition.matching (← given.get 0 "column") (← given.get 1 "pattern") ignoresCase)
  | .isIn => isIn given
  | .existence negated => made (Condition.hasRows (← given.get 0 "subquery") negated)
  | .connect op => made (Condition.connect op given.positional)
  | .opposite => made (Condition.opposite (← given.get 0 "condition"))
  | .raw => raw given
  | .toCondition => made (Condition.ofArgument (← given.get 0 "condition"))
  | .narrow => narrow given
  | .unspecifiedNode => return .condition (.unspecified 0)
  | .comparisonNode =>
    return .condition (.comparison (← given.get 0 "op") (← given.get 1 "column")
      (← given.get 2 "value") 0)
  | .isNullNode =>
    return .condition (.isNull (← given.get 0 "column") (given.getD 1 "negated" (.bool false)) 0)
  | .betweenNode =>
    return .condition (.between (← given.get 0 "column") (← given.get 1 "low")
      (← given.get 2 "high") 0)
  | .patternNode =>
    return .condition (.pattern (← given.get 0 "column") (← given.get 1 "value")
      (given.getD 2 "case_insensitive" (.bool false)) 0)
  | .inNode =>
    return .condition (.membership (← given.get 0 "column") (← given.get 1 "values") 0)
  | .logicalNode => logicalNode given
  | .negationNode => return .condition (.negation (← given.get 0 "inner") 0)
  | .existenceNode =>
    return .condition (.existence (← given.get 0 "subquery")
      (given.getD 1 "negated" (.bool false)) 0)
  | .rawNode => rawNode given
  | .dialect => return dialect given
  | .dialectOfDatabase =>
    let named := Dialect.ofDatabase .known (← given.get 0 "dialect_name")
    return .dialect (← orRefuseOption named) 0
  | .dialectInUse => return (← get).dialectInUse
  | .getOption =>
    let d ← orRefuseOption ((← get).dialectInUse.dialectFor "get_option")
    orRefuseOption (d.getOption (← given.get 0 "name"))
  | .setOption =>
    callRegistry .known 0 (.setOption (← given.get 0 "name") (← given.get 1 "value"))
  | .resetOptions => callRegistry .known 0 .reset
  | .useDialect => callRegistry .known 0 (.use (← given.get 0 "dialect"))
  | .registry => registry given
  | .render => render given
  | .renderIdentifier => renderIdentifier given
  | .renderCondition => renderCondition given
  | .joinKind =>
    let kind ← given.get 0 "kind"
    readKind kind
    return .keyword (.joinKind (← orRefuse (JoinKind.ofValue kind)))
  | .joinSpec =>
    return .joinSpec (← given.get 0 "kind") (← given.get 1 "table") (← given.get 2 "on") 0
  | .checkName => checkName given
  | .flatten => flatten given
  | .logger => logger given
  | .problem kind => problem kind given
  | .part => partOf given
  | .unpack => unpack given
  | .shown => showValue given
  | .display => displayValue given
  | .equal => return .bool ((← given.get 0 "a").equals (← given.get 1 "b"))
  | .same => return .bool ((← given.get 0 "a").isSame (← given.get 1 "b"))

end SqlComposer.Script
