import SqlComposer.Script.Session

/-!
# Reports

What is told about the value that a step gives. Plain data is told as it is, and so are collections
of it, dialects, and statements that have been written. A statement that is itself the value is
written on this occasion. All else is told as it is shown.
-/

namespace SqlComposer.Script

/-- What is told about a value. -/
inductive Report where
  | plain (v : Value)
  | list (items : List Report)
  | tuple (items : List Report)
  | set (items : List Report)
  | map (entries : List (Report × Report))
  | dialect (style opening closing bindsCounts name : Report)
  /-- A registry, by what it holds. -/
  | registry (held : Report)
  | rendered (text : String) (values : List Report) (dialect : Report)
  | problem (kind : ProblemKind) (text shown : String) (remarks : List String) (detail : Report)
  | shown (text : String)
  /-- A statement, by its kind, and as it is written. -/
  | statement (kind text : String) (values : List Report)
  | faulty (kind : String) (fault : Fault)

mutual

/-- A report on a value; `registry` reports on what a registry holds. -/
def reportWith (registry : Nat → Eval Report) : Value → Eval Report
  | .list items _ => do return .list (← reportAllWith registry items)
  | .tuple items _ => do return .tuple (← reportAllWith registry items)
  | .set items _ => do return .set (← reportAllWith registry items)
  | .map entries _ => do return .map (← reportEntriesWith registry entries)
  | .dialect d _ => reportDialectWith registry d
  | .registry number => do return .registry (← registry number)
  | .rendered text values dialect _ _ => do
    return .rendered text (← reportAllWith registry values) (← reportWith registry dialect)
  | .problem p _ => reportProblemWith registry p
  | .condition c => do return .shown (← shown (.condition c))
  | .statement r => do return .shown (← shown (.statement r))
  | .joinSpec kind table on serial => do
    return .shown (← shown (.joinSpec kind table on serial))
  | .stream items number => do return .shown (← shown (.stream items number))
  | v => return .plain v

def reportAllWith (registry : Nat → Eval Report) : List Value → Eval (List Report)
  | [] => return []
  | v :: vs => do
    let first ← reportWith registry v
    let rest ← reportAllWith registry vs
    return first :: rest

def reportEntriesWith (registry : Nat → Eval Report) :
    List (Value × Value) → Eval (List (Report × Report))
  | [] => return []
  | (key, value) :: entries => do
    let key ← reportWith registry key
    let value ← reportWith registry value
    let rest ← reportEntriesWith registry entries
    return (key, value) :: rest

def reportDialectWith (registry : Nat → Eval Report) : Dialect → Eval Report
  | ⟨style, opening, closing, bindsCounts, name⟩ => do
    return .dialect (← reportWith registry style) (← reportWith registry opening)
      (← reportWith registry closing) (← reportWith registry bindsCounts)
      (← reportWith registry name)

def reportProblemWith (registry : Nat → Eval Report) : Problem → Eval Report
  | ⟨kind, remarks, detail⟩ => do
    let text := Problem.text ⟨kind, remarks, detail⟩
    let shown ← shown (.problem ⟨kind, remarks, detail⟩ 0)
    return .problem kind text shown remarks (← reportWith registry detail)

end

/-- A report on what a registry holds. Registries that hold each other are not followed to the
end. -/
def reportRegistry : Nat → Nat → Eval Report
  | 0, _ => misuse "registries hold each other"
  | depth + 1, number => do
    reportWith (reportRegistry depth) ((← get).registry number)

def report (v : Value) : Eval Report := do
  reportWith (reportRegistry (← get).registries.length) v

/-- Carries out a computation that leaves no lines in the log, even if it fails. -/
def silently {α : Type} (act : Eval α) : Eval α := ExceptT.mk do
  let before := (← get).progress.log
  let result ← act.run
  modify fun s => { s with progress := { s.progress with log := before } }
  return result

/-- A report on a statement, which is written on this occasion. Neither that nor the report on its
values leaves a line in the log. -/
def reportStatement (r : StatementRef) : Eval Report := silently do
  try
    let rendered ← renderStatement r .null
    return .statement r.kindName rendered.text (← rendered.values.mapM report)
  catch fault => return .faulty r.kindName fault

def reportResult : Value → Eval Report
  | .statement r => reportStatement r
  | v => report v

end SqlComposer.Script
