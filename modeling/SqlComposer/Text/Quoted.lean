import SqlComposer.Text.Printable

/-!
# Quoted texts

A text or a string of octets as it is shown inside a message: in single quotes, or in double
quotes if it holds a single quote and no double one; the quote in use, the backslash and all that
does not print are escaped.
-/

namespace SqlComposer.Text

/-- The digits of `n` in base 16, in lower case, padded with zeros to `width` places. -/
def hexPadded (width n : Nat) : List Char :=
  let digits := Nat.toDigits 16 n
  List.replicate (width - digits.length) '0' ++ digits

/-- The quote for a text: double only if that avoids an escape. -/
def quoteFor (has : Char → Bool) : Char :=
  if has '\'' && !has '"' then '"' else '\''

/-- The escapes that have a letter of their own, and those of the backslash and of the quote. -/
def shortEscape? (quote c : Char) : Option (List Char) :=
  if c = quote || c = '\\' then some ['\\', c]
  else if c = '\n' then some ['\\', 'n']
  else if c = '\r' then some ['\\', 'r']
  else if c = '\t' then some ['\\', 't']
  else none

/-- The numeric escape of a character, with two, four or eight digits as its code point needs. -/
def numericEscape (c : Char) : List Char :=
  if c.toNat < 0x100 then '\\' :: 'x' :: hexPadded 2 c.toNat
  else if c.toNat < 0x10000 then '\\' :: 'u' :: hexPadded 4 c.toNat
  else '\\' :: 'U' :: hexPadded 8 c.toNat

/-- One character as it stands between quotes. -/
def escaped (quote c : Char) : List Char :=
  match shortEscape? quote c with
  | some written => written
  | none => if isPrintable c then [c] else numericEscape c

def quoted (s : String) : String :=
  let quote := quoteFor s.toList.contains
  String.ofList (quote :: s.toList.flatMap (escaped quote) ++ [quote])

/-- One octet as it stands between quotes: only visible ASCII is shown as itself. -/
def escapedOctet (quote : Char) (octet : UInt8) : List Char :=
  let c := Char.ofNat octet.toNat
  match shortEscape? quote c with
  | some written => written
  | none => if 0x20 ≤ octet.toNat && octet.toNat < 0x7f then [c] else numericEscape c

/-- Octets in quotes, behind the letter b. -/
def quotedOctets (octets : List UInt8) : String :=
  let quote := quoteFor fun c => octets.any fun octet => octet.toNat == c.toNat
  String.ofList ('b' :: quote :: octets.flatMap (escapedOctet quote) ++ [quote])

end SqlComposer.Text
