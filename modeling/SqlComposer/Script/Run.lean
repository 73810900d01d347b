import SqlComposer.Script.Methods
import SqlComposer.Script.Report

/-!
# Running scripts

Expressions are evaluated from left to right, and steps one after the other. A step that fails binds
nothing and does not stop the script. There is a report on the value of every other step.
-/

namespace SqlComposer.Script

mutual

def Expression.evaluate : Expression → Eval Value
  | .atom v => do return ← issue v
  | .list items => do return ← issue (.list (← evaluateAll items) 0)
  | .tuple items => do return ← issue (.tuple (← evaluateAll items) 0)
  | .set items => do return ← issue (.set (← evaluateAll items) 0)
  | .map entries => do return ← issue (.map (Value.ofEntries (← evaluateEntries entries)) 0)
  | .stream items => do
    let values ← evaluateAll items
    let s ← get
    set { s with streams := s.streams + 1 }
    return .stream values s.streams
  | .bound name => do
    match (← get).bindings.lookup name with
    | some v => return v
    | none => misuse ("not bound: " ++ name)
  | .call function arguments => do
    let given ← arguments.evaluate
    issue (← callFunction function given)
  | .chain target calls => do
    let v ← target.evaluate
    evaluateCalls v calls

/-- The values of arguments, those in order before those with names. The last one given with a name
comes first, for it is the one that counts. -/
def Arguments.evaluate : Arguments → Eval Given
  | ⟨positional, named⟩ => do return ⟨← evaluateAll positional, (← evaluateNamed named).reverse⟩

def evaluateAll : List Expression → Eval (List Value)
  | [] => return []
  | e :: es => do
    let v ← e.evaluate
    let vs ← evaluateAll es
    return v :: vs

def evaluateEntries : List (Expression × Expression) → Eval (List (Value × Value))
  | [] => return []
  | (key, value) :: entries => do
    let key ← key.evaluate
    let value ← value.evaluate
    let rest ← evaluateEntries entries
    return (key, value) :: rest

def evaluateNamed : List (String × Expression) → Eval (List (String × Value))
  | [] => return []
  | (name, e) :: named => do
    let v ← e.evaluate
    let rest ← evaluateNamed named
    return (name, v) :: rest

def evaluateCalls (target : Value) : List (Method × Arguments) → Eval Value
  | [] => return target
  | (method, arguments) :: calls => do
    let given ← arguments.evaluate
    let result ← issue (← callMethod target method given)
    evaluateCalls result calls

end

/-- Binds a value to a name, if there is one. -/
def bindTo (name : Option String) (v : Value) : Eval Unit :=
  match name with
  | some name => modify fun s => { s with bindings := (name, v) :: s.bindings }
  | none => return ()

/-- Carries out a step, and reports on what it gives. -/
def Step.evaluate (step : Step) : Eval Report := do
  let v ← step.expression.evaluate
  bindTo step.bind v
  reportResult v

/-- Carries out steps one after the other, with a report or a fault for each. -/
def runSteps : List Step → StateM Session (List (Except Fault Report))
  | [] => return []
  | step :: steps => do
    let first ← step.evaluate.run
    let rest ← runSteps steps
    return first :: rest

/-- What comes of a script: the reports on its steps, and the log. -/
structure Results where
  reports : List (Except Fault Report)
  log : List LogLine

/-- Carries out a script in a session of its own. -/
def run (steps : List Step) : Results :=
  let (reports, s) := (runSteps steps).run {}
  ⟨reports, s.progress.log⟩

/-- The lines that expressions log, whose values nobody looks at. The first one that fails ends
it. -/
def logOf (expressions : List Expression) : Except Fault (List LogLine) :=
  match (evaluateAll expressions).run.run {} with
  | (.ok _, s) => .ok s.progress.log
  | (.error fault, _) => .error fault

end SqlComposer.Script
