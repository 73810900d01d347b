import SqlComposer.Dialect.Database

/-!
# The dialect in use

The options of a dialect are set and read, and there is a dialect that statements are written in
unless they are given another one. A value is checked before anything changes.
-/

namespace SqlComposer

namespace Dialect

/-! ## Setting and reading -/

/-- The dialect with one option changed. The dialect of a database brings its own placeholders and
quotes, and leaves the binding of counts alone. -/
def withOption (databases : Databases) (d : Dialect) (option value : Value) :
    Except OptionError Dialect := do
  match ← DialectOption.ofValue option with
  | .placeholder =>
    return { d with style := .keyword (.placeholderStyle (← PlaceholderStyle.ofValue value)) }
  | .quote =>
    let (opening, closing) ← quotesOf value
    return { d with opening, closing }
  | .countBinding => return { d with bindsCounts := ← switchOf option value }
  | .database => return { ← ofDatabase databases value with bindsCounts := d.bindsCounts }

/-- The value of an option, in a form in which it may be set. -/
def getOption (d : Dialect) (option : Value) : Except OptionError Value := do
  match ← DialectOption.ofValue option with
  | .placeholder =>
    match d.style? with
    | some style => return .ofToken style
    | none => throw (.partMissing d.style "token")
  | .quote => return d.opening
  | .countBinding => return d.bindsCounts
  | .database => return d.name

end Dialect

/-! ## The dialect in use -/

/-- What can be done to the dialect in use. -/
inductive RegistryCall where
  | setOption (option value : Value)
  | use (choice : Value)
  | reset

/-- The default dialect as a value, which is one and the same wherever it is used. -/
def Value.standardDialect : Value :=
  .dialect .standard 1

/-- The dialect that a value is, for a use that names a part of dialects. -/
def Value.dialectFor (given : Value) (part : String) : Except OptionError Dialect :=
  match given with
  | .dialect d _ => .ok d
  | _ => .error (.partMissing given part)

/-- The dialect in use after a call: one option changed, a whole dialect or the dialect of a named
database installed, or the defaults restored. Whatever is no name is installed as it is. -/
def RegistryCall.apply (databases : Databases) : RegistryCall → Value → Except OptionError Value
  | .setOption option value, inUse => do
    return .dialect (← (← inUse.dialectFor "with_option").withOption databases option value) 0
  | .use choice, _ =>
    if choice.name?.isSome then do return .dialect (← Dialect.ofDatabase databases choice) 0
    else .ok choice
  | .reset, _ => .ok .standardDialect

end SqlComposer
