import SqlComposer.Dialect.Registry
import SqlComposer.Display
import SqlComposer.Log
import SqlComposer.Render
import SqlComposer.Script.Expression

/-!
# Sessions

What a script works on: the statements started so far, the dialect in use, the names bound, and the
log. A step that fails leaves the session as it was when the failure arose.
-/

namespace SqlComposer.Script

/-- The state of a script. The first registry holds the dialect in use. -/
structure Session where
  store : Store := {}
  registries : List Value := [.standardDialect]
  streams : Nat := 0
  bindings : List (String × Value) := []
  lastSerial : Serial := lastReserved
  progress : Progress := {}

/-- A computation on a session that may fail. -/
abbrev Eval := ExceptT Fault (StateM Session)

namespace Session

def registry (s : Session) (number : Nat) : Value :=
  s.registries.getD number .standardDialect

def dialectInUse (s : Session) : Value :=
  s.registry 0

def text (s : Session) : Store.Nested :=
  s.store.text s.dialectInUse

def writer (s : Session) (dialect : Value) : Writer :=
  s.store.writer s.text {} dialect

end Session

/-! ## Writing and failing -/

/-- Writes something. What has happened by then stays, even if it fails. -/
def writing {α : Type} (write : Session → Writing α) : Eval α := do
  let s ← get
  match (write s).run s.progress with
  | .ok a progress =>
    set { s with progress }
    return a
  | .error fault progress =>
    set { s with progress }
    throw fault

def shown (v : Value) : Eval String :=
  writing fun s => s.store.shown s.text {} v

def displayed (v : Value) : Eval String :=
  writing fun s => s.store.display s.text {} v

def spelled (d : Dialect) (parts : List Identifier.NamePart) : Eval String :=
  writing fun s => (s.writer (.dialect d 0)).spelled d parts

/-- Writes a statement, and says so in the log. -/
def renderStatement (r : StatementRef) (asked : Value) : Eval Rendered :=
  writing fun s => s.store.render s.dialectInUse asked r

def addLine (logger message : String) : Eval Unit :=
  writing fun _ => Writing.addLine logger message

/-- The items left in a stream, which has none then. Other values stay as they are. -/
def taken : Value → Eval Value
  | .stream items number =>
    writing fun _ => do return .tuple (← Writing.takeAll items number) 0
  | v => return v

/-- Fails because something is not used as it should be. -/
def misuse {α : Type} (reason : String) : Eval α :=
  throw (.misuse reason)

/-- Fails because a value lacks what is asked of it. -/
def lacking {α : Type} (given : Value) (part : String) : Eval α :=
  throw (.lacking given part)

/-- Carries on with a result, or fails with the message about a refused clause. -/
def orRefuse {α : Type} (result : Except ClauseError α) : Eval α := do
  match result with
  | .ok a => return a
  | .error cause => writing fun s => Writing.refuse (s.store.shown s.text {}) cause

/-- Carries on with a result, or fails with the message about a refused option. -/
def orRefuseOption {α : Type} (result : Except OptionError α) : Eval α := do
  match result with
  | .ok a => return a
  | .error cause => writing fun s => Writing.refuseOption (s.store.shown s.text {}) cause

/-! ## Serial numbers -/

/-- Issues the next serial number. -/
def issueSerial : StateM Session Serial :=
  modifyGet fun s => (s.lastSerial + 1, { s with lastSerial := s.lastSerial + 1 })

/-- The serial number itself or, if there is none yet, the next one. -/
def orIssue (serial : Serial) : StateM Session Serial :=
  if serial = 0 then issueSerial else return serial

mutual

/-- Issues serial numbers to a value and its parts, as far as they have none. -/
def issue : Value → StateM Session Value
  | .int n serial => do return .int n (← orIssue serial)
  | .float decimal serial => do return .float decimal (← orIssue serial)
  | .text s serial => do return .text s (← orIssue serial)
  | .bytes octets serial => do return .bytes octets (← orIssue serial)
  | .list items serial => do return .list (← issueAll items) (← orIssue serial)
  | .tuple items serial => do return .tuple (← issueAll items) (← orIssue serial)
  | .set items serial => do return .set (← issueAll items) (← orIssue serial)
  | .map entries serial => do return .map (← issueEntries entries) (← orIssue serial)
  | .condition c => do return .condition (← issueCondition c)
  | .dialect d serial => do return .dialect (← issueDialect d) (← orIssue serial)
  | .rendered text values dialect serial listSerial => do
    return .rendered text (← issueAll values) (← issue dialect) (← orIssue serial)
      (← orIssue listSerial)
  | .joinSpec kind table on serial => do
    return .joinSpec (← issue kind) (← issue table) (← issue on) (← orIssue serial)
  | .problem p serial => do return .problem (← issueProblem p) (← orIssue serial)
  | v => return v

def issueAll : List Value → StateM Session (List Value)
  | [] => return []
  | v :: vs => do return (← issue v) :: (← issueAll vs)

def issueEntries : List (Value × Value) → StateM Session (List (Value × Value))
  | [] => return []
  | (key, value) :: entries => do
    return (← issue key, ← issue value) :: (← issueEntries entries)

def issueDialect : Dialect → StateM Session Dialect
  | ⟨style, opening, closing, bindsCounts, name⟩ => do
    return ⟨← issue style, ← issue opening, ← issue closing, ← issue bindsCounts, ← issue name⟩

def issueProblem : Problem → StateM Session Problem
  | ⟨kind, remarks, detail⟩ => do return ⟨kind, remarks, ← issue detail⟩

def issueRaw : Raw → StateM Session Raw
  | ⟨text, values, serial⟩ => do return ⟨text, ← issue values, ← orIssue serial⟩

def issueCondition : Condition → StateM Session Condition
  | .comparison op column value serial => do
    return .comparison (← issue op) (← issue column) (← issue value) (← orIssue serial)
  | .isNull column negated serial => do
    return .isNull (← issue column) (← issue negated) (← orIssue serial)
  | .between column low high serial => do
    return .between (← issue column) (← issue low) (← issue high) (← orIssue serial)
  | .pattern column value ignoresCase serial => do
    return .pattern (← issue column) (← issue value) (← issue ignoresCase) (← orIssue serial)
  | .membership column values serial => do
    return .membership (← issue column) (← issue values) (← orIssue serial)
  | .logical op operands serial => do
    return .logical op (← issue operands) (← orIssue serial)
  | .negation inner serial => do return .negation (← issue inner) (← orIssue serial)
  | .existence subselect negated serial => do
    return .existence (← issue subselect) (← issue negated) (← orIssue serial)
  | .raw fragment => do return .raw (← issueRaw fragment)
  | .unspecified serial => do return .unspecified (← orIssue serial)

end

def issueClause : Option Condition → StateM Session (Option Condition)
  | none => return none
  | some c => do return some (← issueCondition c)

/-! ## Statements -/

def startBare (dialect : Value) : Eval StatementRef := do
  let s ← get
  let (store, id) := s.store.addBare dialect
  set { s with store }
  return .bare id

def startSelect (dialect : Value) : Eval SelectId := do
  let s ← get
  let (store, id) := s.store.addSelect dialect
  set { s with store }
  return id

def startInsert (dialect : Value) : Eval InsertId := do
  let s ← get
  let (store, id) := s.store.addInsert dialect
  set { s with store }
  return id

def startUpdate (dialect : Value) : Eval UpdateId := do
  let s ← get
  let (store, id) := s.store.addUpdate dialect
  set { s with store }
  return id

def startDelete (dialect : Value) : Eval DeleteId := do
  let s ← get
  let (store, id) := s.store.addDelete dialect
  set { s with store }
  return id

/-- Issues serial numbers to the conditions that a call has made. -/
def issueNew (call : Store.Call) : Eval Unit := do
  let store := (← get).store
  match call with
  | .select id _ =>
    let statement := store.select id
    let rows ← issueClause statement.rows
    let groups ← issueClause statement.groups
    modify fun s => { s with store := store.setSelect id { statement with rows, groups } }
  | .update id _ =>
    let statement := store.update id
    let rows ← issueClause statement.rows
    modify fun s => { s with store := store.setUpdate id { statement with rows } }
  | .delete id _ =>
    let statement := store.delete id
    let rows ← issueClause statement.rows
    modify fun s => { s with store := store.setDelete id { statement with rows } }
  | .insert _ _ => return ()

/-- Carries out a call on a statement; what it left behind stays, even if it was refused. -/
def callStatement (call : Store.Call) : Eval Unit := do
  let s ← get
  let outcome := s.store.call call
  set { s with store := outcome.state }
  issueNew call
  match outcome.refusal with
  | none => return ()
  | some cause => orRefuse (.error cause)

/-! ## Registries -/

/-- What the log says about a change of dialect. -/
def changeMessage (after : Value) : RegistryCall → Message
  | .setOption option value =>
    ["Dialect option ", option.ownText?.getD "", " set to ", value]
  | .use _ => ["Dialect replaced with ", after]
  | .reset => ["Dialect reset to defaults"]

/-- Changes the dialect that a registry holds, and says so in the log. -/
def callRegistry (databases : Databases) (number : Nat) (call : RegistryCall) : Eval Value := do
  let after ← issue (← orRefuseOption (call.apply databases ((← get).registry number)))
  modify fun s => { s with registries := s.registries.set number after }
  let message ← writing fun s => (changeMessage after call).text (s.store.shown s.text {})
  addLine dialectLogger message
  return .null

/-! ## Results -/

def renderedValue (rendered : Rendered) : Value :=
  .rendered rendered.text rendered.values rendered.dialect 0 0

end SqlComposer.Script
