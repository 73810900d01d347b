import SqlComposer.Value.Number

/-!
# Equality

When two values are equal: numbers by their value, whatever their form; texts and keywords by their
text; collections, conditions, dialects and whatever has parts, part by part; statements,
registries, streams and failures only if they are one and the same. As parts, two values are also
equal if they carry one serial number, which only matters for floats that are not a number. Two
values that are equal may still be told apart, by their serial numbers.
-/

namespace SqlComposer

/-- Whether two serial numbers have been issued for the same thing. -/
def sameSerial (first second : Serial) : Bool :=
  first = second && first ≠ 0

mutual

/-- Whether two values are equal as parts of something. -/
def Value.alike (first second : Value) : Bool :=
  match first with
  | .null => match second with
    | .null => true
    | _ => false
  | .bool b => match second.number? with
    | some number => Number.equals (.whole (if b then 1 else 0)) number
    | none => false
  | .int n _ => match second.number? with
    | some number => Number.equals (.whole n) number
    | none => false
  | .float decimal serial => match second with
    | .float other otherSerial =>
      sameSerial serial otherSerial || Number.equals (.ofDecimal decimal) (.ofDecimal other)
    | _ => match second.number? with
      | some number => Number.equals (.ofDecimal decimal) number
      | none => false
  | .text s _ => match second.name? with
    | some name => s = name.text
    | none => false
  | .keyword word => match second.name? with
    | some name => word.text = name.text
    | none => false
  | .bytes octets _ => match second with
    | .bytes others _ => octets = others
    | _ => false
  | .list items _ => match second with
    | .list others _ => Value.allAlike items others
    | _ => false
  | .tuple items _ => match second with
    | .tuple others _ => Value.allAlike items others
    | _ => false
  | .set items _ => match second with
    | .set others _ => Value.allAlike items others
    | _ => false
  | .map entries _ => match second with
    | .map others _ => entries.length = others.length && Value.entriesAmong entries others
    | _ => false
  | .stream _ number => match second with
    | .stream _ other => number = other
    | _ => false
  | .condition c => match second with
    | .condition other => c.alike other
    | _ => false
  | .statement ref => match second with
    | .statement other => ref = other
    | _ => false
  | .dialect d _ => match second with
    | .dialect other _ => d.alike other
    | _ => false
  | .registry number => match second with
    | .registry other => number = other
    | _ => false
  | .rendered text values _ _ _ => match second with
    | .rendered otherText others _ _ _ => text = otherText && Value.allAlike values others
    | _ => false
  | .joinSpec kind table on _ => match second with
    | .joinSpec otherKind otherTable otherOn _ =>
      kind.alike otherKind && table.alike otherTable && on.alike otherOn
    | _ => false
  | .problem _ serial => match second with
    | .problem _ otherSerial => sameSerial serial otherSerial
    | _ => false

def Value.allAlike (first second : List Value) : Bool :=
  match first with
  | [] => second.isEmpty
  | v :: vs => match second with
    | [] => false
    | other :: others => v.alike other && Value.allAlike vs others

/-- Whether every entry of a mapping has an equal one in another mapping. -/
def Value.entriesAmong (first second : List (Value × Value)) : Bool :=
  match first with
  | [] => true
  | (key, value) :: entries =>
    second.any (fun other => key.alike other.1 && value.alike other.2) &&
      Value.entriesAmong entries second

def Raw.alike (first second : Raw) : Bool :=
  match first with
  | ⟨text, values, _⟩ => text.text = second.text.text && values.alike second.values

def Dialect.alike (first second : Dialect) : Bool :=
  match first with
  | ⟨style, opening, closing, bindsCounts, name⟩ =>
    style.alike second.style && opening.alike second.opening && closing.alike second.closing &&
      bindsCounts.alike second.bindsCounts && name.alike second.name

def Condition.alike (first second : Condition) : Bool :=
  match first with
  | .comparison op column value _ => match second with
    | .comparison otherOp otherColumn other _ =>
      op.alike otherOp && column.alike otherColumn && value.alike other
    | _ => false
  | .isNull column negated _ => match second with
    | .isNull otherColumn otherNegated _ =>
      column.alike otherColumn && negated.alike otherNegated
    | _ => false
  | .between column low high _ => match second with
    | .between otherColumn otherLow otherHigh _ =>
      column.alike otherColumn && low.alike otherLow && high.alike otherHigh
    | _ => false
  | .pattern column value ignoresCase _ => match second with
    | .pattern otherColumn other otherIgnoresCase _ =>
      column.alike otherColumn && value.alike other && ignoresCase.alike otherIgnoresCase
    | _ => false
  | .membership column values _ => match second with
    | .membership otherColumn others _ => column.alike otherColumn && values.alike others
    | _ => false
  | .logical op operands _ => match second with
    | .logical otherOp others _ => op = otherOp && operands.alike others
    | _ => false
  | .negation inner _ => match second with
    | .negation other _ => inner.alike other
    | _ => false
  | .existence subselect negated _ => match second with
    | .existence other otherNegated _ => subselect.alike other && negated.alike otherNegated
    | _ => false
  | .raw fragment => match second with
    | .raw other => fragment.alike other
    | _ => false
  | .unspecified serial => match second with
    | .unspecified otherSerial => sameSerial serial otherSerial
    | _ => false

end

namespace Value

def equals (first second : Value) : Bool :=
  match first, second with
  | float decimal _, float other _ => Number.equals (.ofDecimal decimal) (.ofDecimal other)
  | _, _ => first.alike second

/-- Puts an entry into a mapping: a key that is there keeps its place and its form, and takes the
new value. -/
def putEntry (entries : List (Value × Value)) (key value : Value) : List (Value × Value) :=
  if entries.any fun entry => entry.1.alike key then
    entries.map fun entry => if entry.1.alike key then (entry.1, value) else entry
  else entries ++ [(key, value)]

def ofEntries (entries : List (Value × Value)) : List (Value × Value) :=
  entries.foldl (fun known entry => putEntry known entry.1 entry.2) []

/-! ## Identity -/

/-- Whether a value is one and the same wherever it occurs, as are the empty tuple, small numbers,
and texts and octets of at most one character. -/
def isShared : Value → Bool
  | int n _ => -5 ≤ n && n ≤ 256
  | text s _ => s.length ≤ 1 && s.toList.all (·.toNat < 256)
  | bytes octets _ => octets.length ≤ 1
  | tuple items _ => items.isEmpty
  | _ => false

/-- The serial number of a value that can have one. -/
def ownSerial? : Value → Option Serial
  | int _ serial => some serial
  | float _ serial => some serial
  | text _ serial => some serial
  | bytes _ serial => some serial
  | list _ serial => some serial
  | tuple _ serial => some serial
  | set _ serial => some serial
  | map _ serial => some serial
  | condition c => some c.serial
  | dialect _ serial => some serial
  | rendered _ _ _ serial _ => some serial
  | joinSpec _ _ _ serial => some serial
  | problem _ serial => some serial
  | _ => none

/-- The serial number that tells a value apart from its equals. -/
def serial? (v : Value) : Option Serial :=
  if v.isShared then none else v.ownSerial?

/-- Whether two values are one and the same. What has no serial number is the same as its equals of
the same kind. -/
def isSame (first second : Value) : Bool :=
  match first.serial?, second.serial? with
  | some serial, some other => sameSerial serial other
  | none, none => first.kindName = second.kindName && first.alike second
  | _, _ => false

end Value

end SqlComposer
