import SqlComposer.Name
import SqlComposer.Problem

/-!
# Values and conditions

A value is whatever a caller hands over: data to bind, a condition, a raw fragment, a dialect, or a
reference to a statement. Conditions are immutable trees over values; statements change over time,
so values and conditions refer to them by number and never contain them.
-/

namespace SqlComposer

/-! ## References and marks -/

structure SelectId where
  index : Nat
deriving DecidableEq

structure InsertId where
  index : Nat
deriving DecidableEq

structure UpdateId where
  index : Nat
deriving DecidableEq

structure DeleteId where
  index : Nat
deriving DecidableEq

structure BareId where
  index : Nat
deriving DecidableEq

inductive StatementRef where
  | bare (id : BareId)
  | select (id : SelectId)
  | insert (id : InsertId)
  | update (id : UpdateId)
  | delete (id : DeleteId)
deriving DecidableEq

/-- Tells apart things that look alike: two that carry the same serial number are one. Zero means
that none has been issued yet. -/
abbrev Serial := Nat

/-- The last of the serial numbers that are kept for what is one and the same everywhere. -/
def lastReserved : Serial := 4

inductive Connective where
  | and
  | or
deriving DecidableEq

def Connective.text : Connective → String
  | .and => "AND"
  | .or => "OR"

/-! ## Trees -/

mutual

/-- A value as it is handed over or bound. -/
inductive Value where
  | null
  | bool (b : Bool)
  | int (n : Int) (serial : Serial)
  | float (decimal : String) (serial : Serial)
  | text (s : String) (serial : Serial)
  | keyword (word : Keyword)
  | bytes (octets : List UInt8) (serial : Serial)
  | list (items : List Value) (serial : Serial)
  | tuple (items : List Value) (serial : Serial)
  | set (items : List Value) (serial : Serial)
  | map (entries : List (Value × Value)) (serial : Serial)
  /-- Items that can be gone through once, and the number under which it is kept how many of them
  are gone. -/
  | stream (items : List Value) (number : Nat)
  | condition (c : Condition)
  | statement (ref : StatementRef)
  | dialect (d : Dialect) (serial : Serial)
  | registry (number : Nat)
  /-- A statement that has been written; the list of its values is a value too. -/
  | rendered (text : String) (values : List Value) (dialect : Value) (serial listSerial : Serial)
  | joinSpec (kind table on : Value) (serial : Serial)
  | problem (p : Problem) (serial : Serial)

/-- A predicate over the rows of a table. The checks that make one see to it that columns are names,
switches are truth values and operands are conditions; a tree may also be put together without
them. -/
inductive Condition where
  | comparison (op column value : Value) (serial : Serial)
  | isNull (column negated : Value) (serial : Serial)
  | between (column low high : Value) (serial : Serial)
  /-- Whether the column matches a pattern, perhaps in any letter case. -/
  | pattern (column value ignoresCase : Value) (serial : Serial)
  /-- Whether the column is one of the members of a collection, or one of the rows of a
  subselect. -/
  | membership (column values : Value) (serial : Serial)
  /-- One or more conditions under a connective, in the order in which they are written. -/
  | logical (op : Connective) (operands : Value) (serial : Serial)
  | negation (inner : Value) (serial : Serial)
  /-- Whether a subselect has, or has not, any row. -/
  | existence (subselect negated : Value) (serial : Serial)
  | raw (fragment : Raw)
  /-- A condition that says nothing and cannot be written. -/
  | unspecified (serial : Serial)

/-- A fragment of text that is copied as it is, apart from its markers, each of which stands for a
value. -/
structure Raw where
  text : Name
  values : Value
  serial : Serial

/-- The settings under which a statement is written: how placeholders are written, the quotes that
open and close an identifier, whether the counts of LIMIT and OFFSET are bound like other values,
and the name of the database. A dialect may be put together from anything, so its settings are
values. -/
structure Dialect where
  style : Value
  opening : Value
  closing : Value
  bindsCounts : Value
  name : Value

/-- What a failure says about itself: its kind, the detail that describes it, and further
remarks. -/
structure Problem where
  kind : ProblemKind
  remarks : List String
  detail : Value

end

instance : Inhabited Value := ⟨.null⟩

/-! ## Views of a value -/

namespace Value

/-- The value as a name, if it is a text. -/
def name? : Value → Option Name
  | text s _ => some (.plain s)
  | keyword word => some (.keyword word)
  | _ => none

def ofText (s : String) : Value :=
  text s 0

/-- The short form of a style, which is one and the same wherever it is asked for. -/
def ofToken (style : PlaceholderStyle) : Value :=
  text style.token 2

def ofName : Name → Value
  | .plain s => ofText s
  | .keyword word => keyword word

theorem name?_ofName (n : Name) : (ofName n).name? = some n := by
  cases n <;> rfl

/-- The value as a name that is not blank. -/
def visibleName? (v : Value) : Option Name :=
  v.name?.filter fun n => !Text.allBlank n.text

def select? : Value → Option SelectId
  | statement (.select id) => some id
  | _ => none

def raw? : Value → Option Raw
  | condition (.raw fragment) => some fragment
  | _ => none

/-! ### Collections -/

def items? : Value → Option (List Value)
  | list items _ => some items
  | tuple items _ => some items
  | _ => none

def ofCharacters (s : String) : List Value :=
  s.toList.map fun c => ofText (String.singleton c)

def ofOctets (octets : List UInt8) : List Value :=
  octets.map fun octet => int octet.toNat 0

/-- The members of anything that can be gone through from end to end: the keys of a mapping, the
characters of a text, the octets of a string of them. -/
def members? : Value → Option (List Value)
  | list items _ => some items
  | tuple items _ => some items
  | set items _ => some items
  | map entries _ => some (entries.map Prod.fst)
  | stream items _ => some items
  | text s _ => some (ofCharacters s)
  | keyword word => some (ofCharacters word.text)
  | bytes octets _ => some (ofOctets octets)
  | rendered written values _ _ listSerial => some [ofText written, list values listSerial]
  | _ => none

/-- The members of a collection as a tuple; a tuple stays itself. Texts and octets are no
collections. -/
def collected? (v : Value) : Option Value :=
  match v with
  | tuple _ _ => some v
  | text _ _ | keyword _ | bytes _ _ => none
  | _ => v.members?.map (tuple · 0)

/-- The number of members of what has them all at hand. -/
def size? : Value → Option Nat
  | stream _ _ => none
  | rendered _ _ _ _ _ => none
  | v => v.members?.map List.length

/-- The one item of a sequence, or the one value of a mapping. -/
def only? : Value → Option Value
  | list [item] _ => some item
  | tuple [item] _ => some item
  | map [(_, value)] _ => some value
  | _ => none

/-! ### Truth -/

/-- A float is zero exactly if this is how its decimal text reads. -/
def isZeroDecimal (decimal : String) : Bool :=
  decimal = "0.0" || decimal = "-0.0"

/-- Whether the value counts as true: all do but null, false, zero and what is empty. -/
def isTruthy : Value → Bool
  | null => false
  | bool b => b
  | int n _ => n ≠ 0
  | float decimal _ => !isZeroDecimal decimal
  | text s _ => !s.isEmpty
  | bytes octets _ => !octets.isEmpty
  | list items _ => !items.isEmpty
  | tuple items _ => !items.isEmpty
  | set items _ => !items.isEmpty
  | map entries _ => !entries.isEmpty
  | _ => true

end Value

/-! ## Kinds -/

/-- The kind of a statement, as messages name it. -/
def StatementRef.kindName : StatementRef → String
  | .bare _ => "QueryBuilder"
  | .select _ => "SelectBuilder"
  | .insert _ => "InsertBuilder"
  | .update _ => "UpdateBuilder"
  | .delete _ => "DeleteBuilder"

/-- The kind of a condition, as messages name it. -/
def Condition.kindName : Condition → String
  | .comparison _ _ _ _ => "Comparison"
  | .isNull _ _ _ => "IsNull"
  | .between _ _ _ _ => "Between"
  | .pattern _ _ _ _ => "Pattern"
  | .membership _ _ _ => "InSet"
  | .logical _ _ _ => "Logical"
  | .negation _ _ => "Negation"
  | .existence _ _ _ => "Exists"
  | .raw _ => "Raw"
  | .unspecified _ => "Condition"

/-- The kind of a value, as messages name it. -/
def Value.kindName : Value → String
  | .null => "NoneType"
  | .bool _ => "bool"
  | .int _ _ => "int"
  | .float _ _ => "float"
  | .text _ _ => "str"
  | .keyword word => word.vocabulary
  | .bytes _ _ => "bytes"
  | .list _ _ => "list"
  | .tuple _ _ => "tuple"
  | .set _ _ => "set"
  | .map _ _ => "dict"
  | .stream _ _ => "list_iterator"
  | .condition c => c.kindName
  | .statement ref => ref.kindName
  | .dialect _ _ => "Dialect"
  | .registry _ => "DialectRegistry"
  | .rendered _ _ _ _ _ => "BuiltQuery"
  | .joinSpec _ _ _ _ => "JoinSpec"
  | .problem p _ => p.kind.label

def Condition.serial : Condition → Serial
  | .comparison _ _ _ serial => serial
  | .isNull _ _ serial => serial
  | .between _ _ _ serial => serial
  | .pattern _ _ _ serial => serial
  | .membership _ _ serial => serial
  | .logical _ _ serial => serial
  | .negation _ serial => serial
  | .existence _ _ serial => serial
  | .raw fragment => fragment.serial
  | .unspecified serial => serial

end SqlComposer
