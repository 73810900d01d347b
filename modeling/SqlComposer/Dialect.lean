import SqlComposer.Text.Split
import SqlComposer.Value

/-!
# Dialects

A dialect fixes how placeholders are written, how identifiers are quoted, and whether the counts of
LIMIT and OFFSET are bound like other values. The defaults are numbered `$` placeholders, no quotes,
and counts written into the text.
-/

namespace SqlComposer

namespace Dialect

def standard : Dialect where
  style := .keyword (.placeholderStyle .dollar)
  opening := .null
  closing := .null
  bindsCounts := .bool false
  name := .null

instance : Inhabited Dialect := ⟨standard⟩

/-! ## Placeholders -/

def style? (d : Dialect) : Option PlaceholderStyle :=
  match d.style with
  | .keyword (.placeholderStyle style) => some style
  | _ => none

/-- The placeholder of the value whose number is shown as `number`. -/
def placeholderFor (d : Dialect) (number : String) : String :=
  match d.style? with
  | some style => if style.isNumbered then style.token ++ number else style.token
  | none => ""

/-- The placeholder of the value with the given number, counted from one. -/
def placeholder (d : Dialect) (number : Nat) : String :=
  d.placeholderFor (toString number)

def countsAreBound (d : Dialect) : Bool :=
  d.bindsCounts.isTruthy

/-! ## Quotes -/

def isQuoting (d : Dialect) : Bool :=
  match d.opening with
  | .null => false
  | _ => true

/-- The closing quote: the dialect's own or, if that is missing or empty, the opening one. -/
def closingQuote (d : Dialect) : Value :=
  if d.closing.isTruthy then d.closing else d.opening

/-- Whether both quotes are texts, if there are any. -/
def hasPlainQuotes (d : Dialect) : Bool :=
  !d.isQuoting || (d.opening.name?.isSome && d.closingQuote.name?.isSome)

/-- Puts a segment between quotes, with every closing quote inside it doubled. -/
def enclosed (opening : String) (closing : Name) (segment : String) : String :=
  opening ++ Text.double closing.text segment ++ closing.display

def enclose (d : Dialect) (segment : String) : String :=
  match d.opening.name?, d.closingQuote.name? with
  | some opening, some closing => enclosed opening.display closing segment
  | _, _ => segment

/-- Quotes one segment of an identifier; without quotes it stays as it is. -/
def quote (d : Dialect) (segment : Name) : Name :=
  if d.isQuoting then .plain (d.enclose segment.text) else segment

end Dialect

/-! ## Dialects among values -/

/-- The first of two values that counts as true, or else the second. -/
def Value.orElse (first second : Value) : Value :=
  if first.isTruthy then first else second

end SqlComposer
