import SqlComposer.Text.Quoted
import SqlComposer.Value

/-!
# How values are shown

Messages quote values and conditions in a notation of their own: texts in quotes, sequences in
brackets, mappings in braces, and everything with parts by its kind and its fields. What is met
again inside itself is shown as dots. How a statement is shown is for the caller to decide, and so
is how it is written, which a failure that has a statement as its detail asks for; both may have
effects, so showing is a computation.
-/

namespace SqlComposer

/-! ## Notation -/

/-- Dots in the place of what is being shown already. -/
def dots : String := "..."

def shownBool (b : Bool) : String :=
  if b then "True" else "False"

def shownList (items : List String) : String :=
  "[" ++ ", ".intercalate items ++ "]"

/-- Items in round brackets; a single item has a comma behind it. -/
def shownTuple : List String → String
  | [item] => "(" ++ item ++ ",)"
  | items => "(" ++ ", ".intercalate items ++ ")"

def shownInBraces (items : List String) : String :=
  "\x7b" ++ ", ".intercalate items ++ "\x7d"

def shownEntry (key value : String) : String :=
  key ++ ": " ++ value

/-- A kind with its fields. -/
def shownRecord (kind : String) (fields : List (String × String)) : String :=
  kind ++ "(" ++ ", ".intercalate (fields.map fun field => field.1 ++ "=" ++ field.2) ++ ")"

def Keyword.shown (word : Keyword) : String :=
  "<" ++ word.display ++ ": " ++ Text.quoted word.text ++ ">"

def Name.shown : Name → String
  | .plain s => Text.quoted s
  | .keyword word => word.shown

/-! ## Problems as texts -/

/-- The remarks and then the detail, without blank characters at the ends. Only the detail that is a
text counts. -/
def Problem.text (p : Problem) : String :=
  Text.trim (" ".intercalate (p.remarks ++ [(p.detail.name?.map Name.text).getD ""]))

/-- A failure described by remarks; without a detail of its own, the first remark is the detail. -/
def Problem.ofRemarks (kind : ProblemKind) (remarks : List String) (detail : Value) : Problem :=
  if detail.isTruthy then ⟨kind, remarks, detail⟩
  else match remarks with
    | first :: rest => ⟨kind, rest, .ofText first⟩
    | [] => ⟨kind, [], detail⟩

/-- The text that a value has of its own: that of a text, a keyword or a failure. -/
def Value.ownText? : Value → Option String
  | .text s _ => some s
  | .keyword word => some word.display
  | .problem p _ => some p.text
  | _ => none

/-- The text of a truth value, which is one and the same wherever it is asked for. -/
def Value.ofTruth (b : Bool) : Value :=
  .text (shownBool b) (if b then 3 else 4)

/-! ## Values and conditions -/

/-- How statements look where values are shown. -/
structure StatementTexts (m : Type → Type) where
  /-- A statement as it is shown inside of what has the given serial numbers. -/
  shown : List Serial → StatementRef → m String
  /-- A statement as it is written while what has the given serial numbers is being shown. -/
  written : List Serial → StatementRef → m String

section Showing

variable {m : Type → Type} [Monad m]

/-- What may be missing. -/
def shownOption {α : Type} (shown : α → m String) : Option α → m String
  | some a => shown a
  | none => return "None"

/-- Shows a part, unless its serial number is one of those it is shown inside of. -/
def shownOnce (inside : List Serial) (serial : Serial) (met : String)
    (shown : List Serial → m String) : m String :=
  if serial = 0 then shown inside
  else if inside.contains serial then return met
  else shown (serial :: inside)

/-- A value as a text: what has a text of its own says it, statements are written, and all else is
shown. -/
def Value.textOr (texts : StatementTexts m) (inside : List Serial) (shown : m String) (v : Value) :
    m String :=
  match v.ownText? with
  | some s => return s
  | none =>
    match v with
    | .statement r => texts.written inside r
    | _ => shown

mutual

/-- A value inside of what has the given serial numbers. -/
def Value.shown (texts : StatementTexts m) (inside : List Serial) : Value → m String
  | .null => return "None"
  | .bool b => return shownBool b
  | .int n _ => return toString n
  | .float decimal _ => return decimal
  | .text s _ => return Text.quoted s
  | .keyword word => return word.shown
  | .bytes octets _ => return Text.quotedOctets octets
  | .list items serial =>
    shownOnce inside serial (shownList [dots]) fun inside => do
      return shownList (← Value.shownAll texts inside items)
  | .tuple items serial =>
    shownOnce inside serial ("(" ++ dots ++ ")") fun inside => do
      return shownTuple (← Value.shownAll texts inside items)
  | .set items serial =>
    if items.isEmpty then return "set()"
    else shownOnce inside serial ("set(" ++ dots ++ ")") fun inside => do
      return shownInBraces (← Value.shownAll texts inside items)
  | .map entries serial =>
    shownOnce inside serial (shownInBraces [dots]) fun inside => do
      return shownInBraces (← Value.shownEntries texts inside entries)
  | .stream _ _ => return "<list_iterator object>"
  | .condition c => c.shown texts inside
  | .statement r => texts.shown inside r
  | .dialect d serial =>
    shownOnce inside serial dots fun inside => d.shown texts inside
  | .registry _ => return "<DialectRegistry object>"
  | .rendered text values _ serial listSerial =>
    shownOnce inside serial dots fun inside => do
      let values ← shownOnce inside listSerial (shownList [dots]) fun inside => do
        return shownList (← Value.shownAll texts inside values)
      return shownRecord "BuiltQuery" [("text", Text.quoted text), ("values", values)]
  | .joinSpec kind table on serial =>
    shownOnce inside serial dots fun inside => do
      return shownRecord "JoinSpec"
        [("kind", ← kind.shown texts inside), ("table", ← table.shown texts inside),
          ("on", ← on.shown texts inside)]
  | .problem p _ => p.shown texts inside

def Value.shownAll (texts : StatementTexts m) (inside : List Serial) :
    List Value → m (List String)
  | [] => return []
  | v :: vs => do
    let first ← v.shown texts inside
    let rest ← Value.shownAll texts inside vs
    return first :: rest

def Value.shownEntries (texts : StatementTexts m) (inside : List Serial) :
    List (Value × Value) → m (List String)
  | [] => return []
  | (key, value) :: entries => do
    let key ← key.shown texts inside
    let value ← value.shown texts inside
    let rest ← Value.shownEntries texts inside entries
    return shownEntry key value :: rest

def Dialect.shown (texts : StatementTexts m) (inside : List Serial) : Dialect → m String
  | ⟨style, opening, closing, bindsCounts, name⟩ => do
    return shownRecord "Dialect"
      [("parameter_style", ← style.shown texts inside),
        ("quote_char", ← opening.shown texts inside),
        ("quote_end", ← closing.shown texts inside),
        ("parameterize_limits", ← bindsCounts.shown texts inside),
        ("name", ← name.shown texts inside)]

/-- The kind of a problem, with the detail as a text if there is one. -/
def Problem.shown (texts : StatementTexts m) (inside : List Serial) : Problem → m String
  | ⟨kind, _, detail⟩ =>
    if detail.isTruthy then do
      return kind.label ++ " - " ++ (← detail.textOr texts inside (detail.shown texts inside))
    else return kind.label

def Raw.shown (texts : StatementTexts m) (inside : List Serial) : Raw → m String
  | ⟨text, values, serial⟩ =>
    shownOnce inside serial dots fun inside => do
      return shownRecord "Raw" [("text", text.shown), ("values", ← values.shown texts inside)]

def Condition.shown (texts : StatementTexts m) (inside : List Serial) : Condition → m String
  | .comparison op column value serial =>
    shownOnce inside serial dots fun inside => do
      return shownRecord "Comparison"
        [("op", ← op.shown texts inside), ("column", ← column.shown texts inside),
          ("value", ← value.shown texts inside)]
  | .isNull column negated serial =>
    shownOnce inside serial dots fun inside => do
      return shownRecord "IsNull"
        [("column", ← column.shown texts inside), ("negated", ← negated.shown texts inside)]
  | .between column low high serial =>
    shownOnce inside serial dots fun inside => do
      return shownRecord "Between"
        [("column", ← column.shown texts inside), ("low", ← low.shown texts inside),
          ("high", ← high.shown texts inside)]
  | .pattern column value ignoresCase serial =>
    shownOnce inside serial dots fun inside => do
      return shownRecord "Pattern"
        [("column", ← column.shown texts inside), ("value", ← value.shown texts inside),
          ("case_insensitive", ← ignoresCase.shown texts inside)]
  | .membership column values serial =>
    shownOnce inside serial dots fun inside => do
      return shownRecord "InSet"
        [("column", ← column.shown texts inside), ("values", ← values.shown texts inside)]
  | .logical op operands serial =>
    shownOnce inside serial dots fun inside => do
      return shownRecord "Logical"
        [("op", Text.quoted op.text), ("operands", ← operands.shown texts inside)]
  | .negation inner serial =>
    shownOnce inside serial dots fun inside => do
      return shownRecord "Negation" [("inner", ← inner.shown texts inside)]
  | .existence subselect negated serial =>
    shownOnce inside serial dots fun inside => do
      return shownRecord "Exists"
        [("subquery", ← subselect.shown texts inside), ("negated", ← negated.shown texts inside)]
  | .raw fragment => fragment.shown texts inside
  | .unspecified _ => return "<Condition object>"

end

/-- A value as a text of its own, while what has the given serial numbers is being shown. -/
def Value.display (texts : StatementTexts m) (inside : List Serial) (v : Value) : m String :=
  v.textOr texts inside (v.shown texts inside)

end Showing

end SqlComposer
