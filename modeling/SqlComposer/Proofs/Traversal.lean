import SqlComposer.Proofs.Unfolding

/-!
# Traversals

The values that a statement binds, collected by going through its clauses from left to right,
without writing anything.
-/

namespace SqlComposer

/-! ## Traversals of trees -/

section Bindings

variable (sub : SelectId → List Value)

mutual

/-- A raw fragment and a SELECT contribute what they bind themselves, with `sub` for a SELECT. Any
other value contributes itself. -/
def Value.bindings : Value → List Value
  | .condition (.raw fragment) => fragment.bindings
  | .statement (.select id) => sub id
  | v => [v]

def Value.eachBindings : List Value → List (List Value)
  | [] => []
  | v :: vs => v.bindings :: Value.eachBindings vs

def Value.keyBindings : List (Value × Value) → List (List Value)
  | [] => []
  | (key, _) :: entries => key.bindings :: Value.keyBindings entries

def Value.memberBindings : Value → List (List Value)
  | .list items _ => Value.eachBindings items
  | .tuple items _ => Value.eachBindings items
  | .set items _ => Value.eachBindings items
  | .map entries _ => Value.keyBindings entries
  | .stream items _ => Value.eachBindings items
  | v => (v.members?.getD []).map fun member => [member]

/-- The values of a raw fragment, one for each marker. -/
def Raw.bindings : Raw → List Value
  | ⟨text, values, _⟩ => (values.memberBindings.take (Raw.markerCount text.text)).flatten

def Value.conditionBindings : Value → List Value
  | .condition c => c.bindings
  | _ => []

def Value.conditionsBindings : List Value → List Value
  | [] => []
  | v :: vs => v.conditionBindings ++ Value.conditionsBindings vs

def Value.keyConditionsBindings : List (Value × Value) → List Value
  | [] => []
  | (key, _) :: entries => key.conditionBindings ++ Value.keyConditionsBindings entries

/-- The operands of a connective. A mapping with a single entry stands for its value. -/
def Value.operandsBindings : Value → List Value
  | .list items _ => Value.conditionsBindings items
  | .tuple items _ => Value.conditionsBindings items
  | .set items _ => Value.conditionsBindings items
  | .map [(_, only)] _ => only.conditionBindings
  | .map entries _ => Value.keyConditionsBindings entries
  | _ => []

/-- The leaves of a condition from left to right. -/
def Condition.bindings : Condition → List Value
  | .comparison _ _ value _ => value.bindings
  | .isNull _ _ _ => []
  | .between _ low high _ => low.bindings ++ high.bindings
  | .pattern _ value _ _ => value.bindings
  | .membership _ (.statement (.select id)) _ => sub id
  | .membership _ values _ => values.memberBindings.flatten
  | .logical _ operands _ => operands.operandsBindings
  | .negation inner _ => inner.conditionBindings
  | .existence (.statement (.select id)) _ _ => sub id
  | .existence _ _ _ => []
  | .raw fragment => fragment.bindings
  | .unspecified _ => []

end

/-! ## Traversals of clauses -/

def Column.bindings : Column → List Value
  | .named _ => []
  | .raw fragment => fragment.bindings sub
  | .subselect id => sub id

def Source.bindings : Source → List Value
  | .table _ => []
  | .subselect id => sub id

def JoinTerms.bindings : JoinTerms → List Value
  | .pairs _ => []
  | .condition c => c.bindings sub

def conditionBindings (clause : Option Condition) : List Value :=
  clause.elim [] (·.bindings sub)

def returningBindings (returning : Option (List Column)) : List Value :=
  (returning.getD []).flatMap (·.bindings sub)

/-- The counts of LIMIT and OFFSET come last, if they are bound. -/
def Select.bindings (counts : Bool) (s : Select) : List Value :=
  s.columns.flatMap (·.bindings sub) ++ s.source.elim [] (·.bindings sub) ++
    s.joins.flatMap (·.terms.bindings sub) ++ conditionBindings sub s.rows ++
    s.grouping.flatMap (·.bindings sub) ++ conditionBindings sub s.groups ++
    s.order.flatMap (·.bindings sub) ++
    if counts then (s.limit.toList ++ s.offset.toList).map (.int · 0) else []

/-- The cells of a row in the order of the given columns. -/
def Row.bindings (columns : List Name) (row : Row) : List Value :=
  columns.flatMap fun column => (row.value? column).elim [] (·.bindings sub)

/-- The rows in order or, without rows, the SELECT that they come from. -/
def Insert.bindings (s : Insert) : List Value :=
  (if s.rows.isEmpty then s.source.elim [] sub
    else s.rows.flatMap (·.bindings sub s.columnNames)) ++ returningBindings sub s.returning

def Update.bindings (s : Update) : List Value :=
  s.assignments.flatMap (fun assignment => assignment.2.bindings sub) ++
    conditionBindings sub s.rows ++ returningBindings sub s.returning

def Delete.bindings (s : Delete) : List Value :=
  conditionBindings sub s.rows ++ returningBindings sub s.returning

end Bindings

/-! ## Traversals of statements -/

namespace Store

/-- What a SELECT inside those of `nesting` binds. -/
def selectBindings (st : Store) (counts : Bool) (nesting : List SelectId) (id : SelectId) :
    List Value :=
  if _ : id ∈ nesting then []
  else if _ : id.index < st.selects.length then
    (st.select id).bindings (fun inner => st.selectBindings counts (id :: nesting) inner) counts
  else []
termination_by st.remaining nesting
decreasing_by exact remaining_lt ‹_› ‹_›

/-- What a statement binds, the counts of LIMIT and OFFSET only if `counts` says so. -/
def bindings (st : Store) (counts : Bool) : StatementRef → List Value
  | .bare _ => []
  | .select id => st.selectBindings counts [] id
  | .insert id => (st.insert id).bindings (st.selectBindings counts [])
  | .update id => (st.update id).bindings (st.selectBindings counts [])
  | .delete id => (st.delete id).bindings (st.selectBindings counts [])

end Store

end SqlComposer
