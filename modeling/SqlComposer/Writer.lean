import SqlComposer.Identifier
import SqlComposer.Writing

/-!
# Writers

How single parts of a statement are written under a dialect. A value is bound at the moment its
placeholder is written, and the placeholder carries the number that the value has by then.
-/

namespace SqlComposer

/-- A statement as it is written: its text, and the values that its placeholders stand for. -/
structure Rendered where
  text : String
  values : List Value
  dialect : Value

/-- How parts are written: the dialect, and how a value becomes a text and how it is shown in
messages. -/
structure Writer where
  dialect : Value
  display : Value → Writing String
  shown : Value → Writing String

namespace Writer

/-- The dialect, which is asked for the given part. -/
def dialectFor (w : Writer) (part : String) : Writing Dialect :=
  match w.dialect with
  | .dialect d _ => return d
  | other => throw (.lacking other part)

/-! ## Names -/

/-- One part of a name, between quotes that are not texts. -/
def part (w : Writer) (d : Dialect) : Identifier.NamePart → Writing String
  | .copied text => return text
  | .quoted name => do
    if d.isQuoting then
      let opening ← w.display d.opening
      match d.closingQuote.name? with
      | some closing => return Dialect.enclosed opening closing name.text
      | none => throw (.misuse "a quote that is no text")
    else return name.display

/-- A name, given by its parts. -/
def spelled (w : Writer) (d : Dialect) (parts : List Identifier.NamePart) : Writing String :=
  if d.hasPlainQuotes then return d.spelled parts
  else do return String.join (← parts.mapM (w.part d))

/-- A name that a dialect turns into parts. -/
def name (w : Writer) (parts : Dialect → List Identifier.NamePart) : Writing String := do
  let d ← w.dialectFor "quote_char"
  w.spelled d (parts d)

def identifier (w : Writer) (name : Name) : Writing String :=
  w.name (·.identifierParts name)

/-- A name that an alias may follow. -/
def reference (w : Writer) (name : Name) : Writing String :=
  w.name (·.referenceParts name)

/-- A name that a direction may follow. -/
def ordering (w : Writer) (name : Name) : Writing String :=
  w.name (·.orderingParts name)

/-- A name that is quoted whatever it holds. -/
def quoted (w : Writer) (name : Name) : Writing String := do
  let d ← w.dialectFor "quote"
  w.spelled d [.quoted name]

/-- A column, and how it becomes a text afterwards. A name is one at once. -/
def column (w : Writer) (given : Value) : Writing (Writing String) :=
  match given.name? with
  | some name => do
    let text ← w.identifier name
    return pure text
  | none => do
    let d ← w.dialectFor "quote_char"
    if d.isQuoting then throw (.misuse "a column that is no text")
    return w.display given

def columnText (w : Writer) (given : Value) : Writing String := do
  let text ← w.column given
  text

/-- The operator of a comparison. -/
def operator (w : Writer) (op : Value) : Writing String :=
  match op.name? with
  | some name => return name.display
  | none => w.display op

/-! ## Values -/

/-- The dialect, which must have placeholders. -/
def binding (w : Writer) : Writing Dialect := do
  let d ← w.dialectFor "placeholder"
  if d.style?.isSome then return d else throw (.lacking d.style "token")

/-- Binds a value behind those that are bound already, and gives its placeholder. -/
def bind (w : Writer) (v : Value) : Binding String := do
  modify (· ++ [v])
  let d ← w.binding
  return d.placeholder (← get).length

/-- The count of LIMIT or OFFSET, which some dialects bind. Its numeral may have any length: the limit
on the digits of numbers that are read (`Text.maxDigits`) is not one on those that are written. -/
def count (w : Writer) (n : Nat) : Binding String := do
  let d ← w.dialectFor "parameterize_limits"
  if d.countsAreBound then w.bind (.int n 0) else return toString n

/-- Refuses a clause or a condition. -/
def refuse {α : Type} (w : Writer) (cause : ClauseError) : Binding α :=
  Writing.refuse w.shown cause

end Writer

namespace Binding

/-- Texts one after the other, with a separator between each two. -/
def joined (separator : String) (parts : List (Binding String)) : Binding String := do
  return separator.intercalate (← parts.mapM id)

/-- The items that are left in a stream, from the item at the given position on. An item is taken
before it is written, and more may be taken while it is. -/
def leftIn (number position : Nat) : List (Binding String) → Binding (List String)
  | [] => return []
  | item :: items => do
    if position < (← getThe Progress).takenFrom number then
      leftIn number (position + 1) items
    else
      modifyThe Progress (·.take number (position + 1))
      let first ← item
      let rest ← leftIn number (position + 1) items
      return first :: rest

end Binding

/-- Binds the members of a collection one after the other. -/
def Writer.bindAll (w : Writer) : Value → Binding Unit
  | .stream items number => do let _ ← Binding.leftIn number 0 (items.map w.bind)
  | given => do let _ ← (given.members?.getD []).mapM w.bind

/-- Puts a text in parentheses. -/
def inParentheses (text : String) : String :=
  "(" ++ text ++ ")"

end SqlComposer
