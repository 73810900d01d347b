import SqlComposer.Dialect
import SqlComposer.Error
import SqlComposer.Text.Alphanumeric

/-!
# Options

The options of a dialect, by the names under which they are set and read, and the checks of the
values that they are given.
-/

namespace SqlComposer

inductive DialectOption where
  | placeholder
  | quote
  | countBinding
  | database
deriving DecidableEq

/-- The option with the given name; two of them have two names. -/
def DialectOption.ofName? : String → Option DialectOption
  | "placeholder" => some .placeholder
  | "quoteChar" => some .quote
  | "quote_char" => some .quote
  | "dialect" => some .database
  | "parameterizeLimits" => some .countBinding
  | "parameterize_limits" => some .countBinding
  | _ => none

def DialectOption.ofValue (given : Value) : Except OptionError DialectOption :=
  match given with
  | .text s _ =>
    match ofName? s with
    | some option => .ok option
    | none => .error (.unknownOption given)
  | _ => .error (.unknownOption given)

/-! ## Checked values -/

/-- A style, given as such, by its token, or by its text. -/
def PlaceholderStyle.ofValue (given : Value) : Except OptionError PlaceholderStyle :=
  match given with
  | .keyword (.placeholderStyle style) => .ok style
  | .text s _ =>
    match ofText? s with
    | some style => .ok style
    | none => .error (.unknownStyle given)
  | _ => .error (.unknownStyle given)

/-- Whether a character may open quotes: punctuation, and not the underscore. -/
def isQuoteCharacter (c : Char) : Bool :=
  !Text.isAlphanumeric c && !Text.isBlank c && c ≠ '_'

/-- The quote that closes what the character `c`, given as `opening`, opens: the same one, but for a
square bracket. -/
def closingFor (c : Char) (opening : Value) : Value :=
  if c = '[' then .ofText "]" else opening

/-- A pair of quotes, given by the opening one; null and the empty text stand for no quotes. -/
def quotesOf (given : Value) : Except OptionError (Value × Value) :=
  match given with
  | .null => .ok (.null, .null)
  | .text s _ =>
    match s.toList with
    | [] => .ok (.null, .null)
    | [c] =>
      if isQuoteCharacter c then .ok (given, closingFor c given)
      else .error (.badQuote given)
    | _ => .error (.badQuote given)
  | _ => .error (.badQuote given)

theorem quotesOf_singleton {c : Char} (hc : isQuoteCharacter c) (serial : Serial) :
    quotesOf (.text (String.singleton c) serial) =
      .ok (.text (String.singleton c) serial,
        closingFor c (.text (String.singleton c) serial)) := by
  simp [quotesOf, hc]

/-- A switch, given as a truth value and nothing else; `option` is the option as it was named. -/
def switchOf (option given : Value) : Except OptionError Value :=
  match given with
  | .bool _ => .ok given
  | _ => .error (.switchExpected option given)

end SqlComposer
