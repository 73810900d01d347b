import SqlComposer.Value

/-!
# Numbers

Truth values, whole numbers and floats are compared as numbers. A float is given by the shortest
decimal text that reads back as it, and stands for the binary number with 53 significant bits that
is nearest to that text; so a large float equals one whole number exactly, which need not be the
one its digits spell.
-/

namespace SqlComposer

/-- A number as far as comparing goes: a whole number, or the text of one that is not whole. -/
inductive Number where
  | whole (n : Int)
  | other (decimal : String)
deriving DecidableEq

namespace Number

/-- The number `n` rounded to 53 significant bits, to the nearest, a tie to the even neighbour. -/
def rounded (n : Nat) : Nat :=
  let excess := (Nat.log2 n + 1) - 53
  let unit := Nat.pow 2 excess
  let quotient := n / unit
  let twice := 2 * (n % unit)
  if twice < unit || (twice = unit && quotient % 2 = 0) then quotient * unit
  else (quotient + 1) * unit

/-- The number that decimal digits spell. -/
def ofDigits (digits : List Char) : Nat :=
  digits.foldl (fun n c => 10 * n + (c.toNat - '0'.toNat)) 0

/-- The whole number that a decimal text without sign stands for, if it is one: digits, perhaps a
point and digits, perhaps the letter e and an exponent. -/
def ofUnsigned? (decimal : List Char) : Option Nat :=
  let mantissa := decimal.takeWhile (· ≠ 'e')
  let exponent := (decimal.dropWhile (· ≠ 'e')).drop 1
  let integral := mantissa.takeWhile (· ≠ '.')
  let fraction := (mantissa.dropWhile (· ≠ '.')).drop 1
  if !(integral ++ fraction).all Char.isDigit then none
  else
    let digits := ofDigits (integral ++ fraction)
    let power : Int := match exponent with
      | '-' :: places => -(ofDigits places : Int)
      | '+' :: places => ofDigits places
      | places => ofDigits places
    match power - fraction.length with
    | .ofNat places => some (rounded (digits * Nat.pow 10 places))
    | .negSucc places =>
      let scale := Nat.pow 10 (places + 1)
      if digits % scale = 0 then some (rounded (digits / scale)) else none

/-- The number that the text of a float stands for. -/
def ofDecimal (decimal : String) : Number :=
  match decimal.toList with
  | '-' :: unsigned =>
    match ofUnsigned? unsigned with
    | some n => whole (-n)
    | none => other decimal
  | unsigned =>
    match ofUnsigned? unsigned with
    | some n => whole n
    | none => other decimal

/-- Whether two numbers are equal. What is not a number equals nothing. -/
def equals (first second : Number) : Bool :=
  first = second && first ≠ other "nan"

end Number

def Value.number? : Value → Option Number
  | .bool b => some (.whole (if b then 1 else 0))
  | .int n _ => some (.whole n)
  | .float decimal _ => some (.ofDecimal decimal)
  | _ => none

end SqlComposer
