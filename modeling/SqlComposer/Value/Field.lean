import SqlComposer.Condition

/-!
# Fields

What has parts can be asked for them by name. The names are those under which the parts are shown,
and a few more for what is worked out from them.
-/

namespace SqlComposer

def Condition.fields : Condition → List (String × Value)
  | .comparison op column value _ => [("op", op), ("column", column), ("value", value)]
  | .isNull column negated _ => [("column", column), ("negated", negated)]
  | .between column low high _ => [("column", column), ("low", low), ("high", high)]
  | .pattern column value ignoresCase _ =>
    [("column", column), ("value", value), ("case_insensitive", ignoresCase)]
  | .membership column values _ => [("column", column), ("values", values)]
  | .logical op operands _ => [("op", .ofText op.text), ("operands", operands)]
  | .negation inner _ => [("inner", inner)]
  | .existence subselect negated _ => [("subquery", subselect), ("negated", negated)]
  | .raw fragment =>
    [("text", .ofName fragment.text), ("values", fragment.values),
      ("fragments", .list (fragment.fragments.map Value.ofText) 0)]
  | .unspecified _ => []

def Dialect.fields (d : Dialect) : List (String × Value) :=
  [("parameter_style", d.style), ("quote_char", d.opening), ("quote_end", d.closing),
    ("parameterize_limits", d.bindsCounts), ("name", d.name)]

/-- What a keyword says of itself. -/
def Keyword.fields : Keyword → List (String × Value)
  | .joinKind kind => [("value", .ofText kind.text), ("name", .ofText kind.label)]
  | .placeholderStyle style =>
    [("value", .ofText style.text), ("name", .ofText style.label), ("token", .ofToken style),
      ("is_numbered", .bool style.isNumbered)]

def Value.fields : Value → List (String × Value)
  | .keyword word => word.fields
  | .condition c => c.fields
  | .dialect d _ => d.fields
  | .rendered written values inUse _ listSerial =>
    [("text", .ofText written), ("values", .list values listSerial), ("dialect", inUse)]
  | .joinSpec kind table on _ => [("kind", kind), ("table", table), ("on", on)]
  | .problem p _ => [("args", .tuple (p.remarks.map Value.ofText) 0), ("detail", p.detail)]
  | _ => []

def Value.field? (v : Value) (name : String) : Option Value :=
  v.fields.lookup name

end SqlComposer
