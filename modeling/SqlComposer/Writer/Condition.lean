import SqlComposer.Condition
import SqlComposer.Writer

/-!
# Writing conditions

Values and conditions are written depth first and from left to right. How a SELECT inside of them is
written is left open.
-/

namespace SqlComposer

/-! ## Connectives with a single operand -/

mutual

/-- A value in the place of a condition, without connectives that have a single operand around
it. -/
def Value.unwrapped : Value → Value
  | .condition c => c.unwrapped
  | v => v

/-- The condition that a connective with a single operand stands for, at any depth. -/
def Condition.unwrapped : Condition → Value
  | .logical op operands serial =>
    operands.onlyUnwrapped?.getD (.condition (.logical op operands serial))
  | c => .condition c

/-- The one operand of a sequence, or the one value of a mapping, which operands never are. -/
def Value.onlyUnwrapped? : Value → Option Value
  | .list [only] _ => some only.unwrapped
  | .tuple [only] _ => some only.unwrapped
  | .map [(_, only)] _ => some only.unwrapped
  | _ => none

end

/-- Whether a value that stands for a condition is put in parentheses as an operand of a connective:
a negation always, and another connective too. -/
def Value.needsParentheses (op : Connective) (v : Value) : Bool :=
  match v.unwrapped with
  | .condition (.negation _ _) => true
  | .condition (.logical inner _ _) => inner ≠ op
  | _ => false

/-- Whether a value that stands for a condition is put in parentheses behind NOT. -/
def Value.isLogical (v : Value) : Bool :=
  match v.unwrapped with
  | .condition (.logical _ _ _) => true
  | _ => false

/-! ## Parts of conditions -/

/-- One of two wordings, chosen by a switch. -/
def worded (choice : Value) (off on : String) : String :=
  if choice.isTruthy then on else off

/-- The parts of the text of a raw fragment, with a value behind each as long as there are any. -/
def Raw.interleaved : List String → List (Binding String) → Binding String
  | part :: next :: parts, value :: values => do
    let value ← value
    let rest ← interleaved (next :: parts) values
    return part ++ value ++ rest
  | part :: _, _ => return part
  | [], _ => return ""

/-- The condition `v` as an operand of a connective. -/
def Value.operandText (op : Connective) (v : Value) (text : String) : String :=
  if v.needsParentheses op then inParentheses text else text

/-- The operands of a connective; a single one stands for itself. -/
def Connective.write (op : Connective) : List Value → List (Binding String) → Binding String
  | [_], [only] => only
  | operands, writes =>
    Binding.joined (" " ++ op.text ++ " ") <|
      List.zipWith (fun v write => do return v.operandText op (← write)) operands writes

/-- A column among the members of a collection, of which there must be some. -/
def Writer.membership (w : Writer) (column values : Value) (members : List (Binding String)) :
    Binding String :=
  if values.isTruthy then do
    let column ← w.columnText column
    return column ++ " IN " ++ inParentheses (← Binding.joined ", " members)
  else do
    let _ ← w.column column
    w.refuse (.noMembers column)

/-! ## Values and conditions -/

section

variable (w : Writer) (sub : SelectId → Binding String)

mutual

/-- A value: raw fragments and subselects stand for themselves, all else is bound. -/
def Value.write : Value → Binding String
  | .condition (.raw fragment) => fragment.write
  | .statement (.select id) => do return inParentheses (← sub id)
  | v => w.bind v

def Value.writes : List Value → List (Binding String)
  | [] => []
  | v :: vs => v.write :: Value.writes vs

def Value.keyWrites : List (Value × Value) → List (Binding String)
  | [] => []
  | (key, _) :: entries => key.write :: Value.keyWrites entries

def Value.memberWrites : Value → List (Binding String)
  | .list items _ => Value.writes items
  | .tuple items _ => Value.writes items
  | .set items _ => Value.writes items
  | .map entries _ => Value.keyWrites entries
  | .stream items _ => Value.writes items
  | v => (v.members?.getD []).map w.bind

/-- A raw fragment: its text with a value in the place of each marker. -/
def Raw.write : Raw → Binding String
  | ⟨text, values, serial⟩ =>
    Raw.interleaved (Raw.fragments ⟨text, values, serial⟩) values.memberWrites

def Value.writeCondition : Value → Binding String
  | .condition c => c.write
  | v => w.refuse (.unknownCondition v.kindName)

def Value.conditionWrites : List Value → List (Binding String)
  | [] => []
  | v :: vs => v.writeCondition :: Value.conditionWrites vs

def Value.keyConditionWrites : List (Value × Value) → List (Binding String)
  | [] => []
  | (key, _) :: entries => key.writeCondition :: Value.keyConditionWrites entries

/-- The operands of a connective, which are a sequence of conditions. Nothing is said about anything
else in their place: a collection is gone through, and what is none is refused. -/
def Value.writeOperands (op : Connective) : Value → Binding String
  | .list items _ => op.write items (Value.conditionWrites items)
  | .tuple items _ => op.write items (Value.conditionWrites items)
  | .set items _ => op.write items (Value.conditionWrites items)
  | .map [(_, only)] _ => only.writeCondition
  | .map entries _ => op.write (entries.map Prod.fst) (Value.keyConditionWrites entries)
  | v => w.refuse (.unknownCondition ((v.members?.bind List.head?).getD v).kindName)

def Condition.write : Condition → Binding String
  | .comparison op column value _ => do
    return (← w.columnText column) ++ " " ++ (← w.operator op) ++ " " ++ (← value.write)
  | .isNull column negated _ => do
    return (← w.columnText column) ++ worded negated " IS NULL" " IS NOT NULL"
  | .between column low high _ => do
    -- The column is quoted before the bounds are written, and becomes a text behind them.
    let column ← w.column column
    let low ← low.write
    let high ← high.write
    return (← column) ++ " BETWEEN " ++ low ++ " AND " ++ high
  | .pattern column value ignoresCase _ => do
    return (← w.columnText column) ++ worded ignoresCase " LIKE " " ILIKE " ++ (← value.write)
  | .membership column (.statement (.select id)) _ => do
    return (← w.columnText column) ++ " IN " ++ inParentheses (← sub id)
  | .membership column (.stream items number) _ => do
    let column ← w.columnText column
    let members ← Binding.leftIn number 0 (Value.writes items)
    return column ++ " IN " ++ inParentheses (", ".intercalate members)
  | .membership column values _ => w.membership column values values.memberWrites
  | .logical op operands _ => operands.writeOperands op
  | .negation inner _ => do
    let text ← inner.writeCondition
    return "NOT " ++ if inner.isLogical then inParentheses text else text
  | .existence (.statement (.select id)) negated _ => do
    return worded negated "EXISTS " "NOT EXISTS " ++ inParentheses (← sub id)
  | .existence other _ _ => w.refuse (.partMissing other "_distinct")
  | .raw fragment => fragment.write
  | .unspecified serial => w.refuse (.unknownCondition (Condition.unspecified serial).kindName)

end

end

end SqlComposer
