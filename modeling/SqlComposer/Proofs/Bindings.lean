import SqlComposer.Proofs.Traversal

/-!
# What pieces bind

The values that pieces bind, from left to right. For the layout of a tree, they are what a traversal
of the tree collects.
-/

namespace SqlComposer

/-! ## Pieces -/

section Pieces

variable (counts : Bool) (sub : SelectId → List Value)

mutual

/-- The values that a piece binds, with those that `sub` gives for a subselect. -/
def Piece.bindings : Piece → List Value
  | .value v => [v]
  | .count n => if counts then [.int n 0] else []
  | .subselect id => sub id
  | .streamed _ items => bindingsInItems items
  | .unnamed _ behind => bindingsIn behind
  | .lateIdentifier _ behind => bindingsIn behind
  | _ => []

def bindingsIn : List Piece → List Value
  | [] => []
  | piece :: pieces => piece.bindings ++ bindingsIn pieces

def bindingsInItems : List (List Piece) → List Value
  | [] => []
  | item :: items => bindingsIn item ++ bindingsInItems items

end

end Pieces

section Layouts

variable {counts : Bool} {sub : SelectId → List Value}

@[simp] theorem bindingsIn_append (front back : List Piece) :
    bindingsIn counts sub (front ++ back) =
      bindingsIn counts sub front ++ bindingsIn counts sub back := by
  induction front with
  | nil => rfl
  | cons piece pieces ih =>
      simp only [List.cons_append, bindingsIn, ih, List.append_assoc]

@[simp] theorem bindingsIn_word (text : String) (pieces : List Piece) :
    bindingsIn counts sub (.word text :: pieces) = bindingsIn counts sub pieces :=
  rfl

theorem bindingsInItems_eq (items : List (List Piece)) :
    bindingsInItems counts sub items = (items.map (bindingsIn counts sub)).flatten := by
  induction items with
  | nil => rfl
  | cons item items ih => simp only [bindingsInItems, ih, List.map_cons, List.flatten_cons]

@[simp] theorem bindingsIn_joined (word : String) : (parts : List (List Piece)) →
    bindingsIn counts sub (Piece.joined word parts) = (parts.map (bindingsIn counts sub)).flatten
  | [] => rfl
  | [part] => by
      simp only [Piece.joined, List.intercalate_singleton, List.map_cons, List.map_nil,
        List.flatten_cons, List.flatten_nil, List.append_nil]
  | part :: next :: parts => by
      have hrest := bindingsIn_joined word (next :: parts)
      simp only [Piece.joined] at hrest ⊢
      rw [List.intercalate_cons_cons, bindingsIn_append, bindingsIn_append, hrest]
      simp only [bindingsIn, Piece.bindings, List.append_nil, List.map_cons, List.flatten_cons]

@[simp] theorem bindingsIn_parenthesized (pieces : List Piece) :
    bindingsIn counts sub (Piece.parenthesized pieces) = bindingsIn counts sub pieces := by
  simp only [Piece.parenthesized, bindingsIn, bindingsIn_append, Piece.bindings, List.nil_append,
    List.append_nil]

@[simp] theorem bindingsIn_column (given : Value) (behind : List Piece) :
    bindingsIn counts sub (Piece.column given behind) = bindingsIn counts sub behind := by
  unfold Piece.column
  split <;> rfl

@[simp] theorem bindingsIn_lateColumn (given : Value) (behind : List Piece) :
    bindingsIn counts sub (Piece.lateColumn given behind) = bindingsIn counts sub behind := by
  unfold Piece.lateColumn
  split
  · rfl
  · exact List.append_nil _

/-! ## Parts of conditions -/

theorem bindingsIn_interleave : (parts : List String) → (values : List (List Piece)) →
    bindingsIn counts sub (interleave parts values) =
      ((values.map (bindingsIn counts sub)).take (parts.length - 1)).flatten
  | [], _ => rfl
  | [_], _ => by simp [interleave, bindingsIn, Piece.bindings]
  | _ :: _ :: _, [] => by simp [interleave, bindingsIn, Piece.bindings]
  | part :: next :: parts, value :: values => by
      have hrest := bindingsIn_interleave (next :: parts) values
      simp only [List.length_cons, Nat.add_sub_cancel] at hrest
      simp only [interleave, bindingsIn, Piece.bindings, bindingsIn_append, hrest, List.nil_append,
        List.map_cons, List.length_cons, Nat.add_sub_cancel, List.take_succ_cons, List.flatten_cons]

theorem bindingsIn_asOperand (op : Connective) (v : Value) (pieces : List Piece) :
    bindingsIn counts sub (v.asOperand op pieces) = bindingsIn counts sub pieces := by
  unfold Value.asOperand
  split
  · exact bindingsIn_parenthesized pieces
  · rfl

theorem bindingsIn_asOperands (op : Connective) : {operands : List Value} →
    {parts : List (List Piece)} → operands.length = parts.length →
      (List.zipWith (Value.asOperand op) operands parts).map (bindingsIn counts sub) =
        parts.map (bindingsIn counts sub)
  | [], [], _ => rfl
  | v :: operands, part :: parts, h => by
      have hrest := bindingsIn_asOperands op (Nat.succ.inj h)
      simp only [List.zipWith_cons_cons, List.map_cons, bindingsIn_asOperand, hrest]

theorem bindingsIn_operands (op : Connective) {operands : List Value} {parts : List (List Piece)}
    (h : operands.length = parts.length) :
    bindingsIn counts sub (op.joined operands parts) =
      (parts.map (bindingsIn counts sub)).flatten := by
  unfold Connective.joined
  split
  · simp
  · rw [bindingsIn_joined, bindingsIn_asOperands op h]

theorem bindingsIn_negated (v : Value) (pieces : List Piece) :
    bindingsIn counts sub (v.negated pieces) = bindingsIn counts sub pieces := by
  unfold Value.negated
  split
  · exact bindingsIn_parenthesized pieces
  · rfl

theorem memberBindings_of_falsy {v : Value} (h : v.isTruthy = false) :
    v.memberBindings sub = [] := by
  cases v with
  | list items _ | tuple items _ | set items _ | map items _ =>
      cases items with
      | nil => rfl
      | cons item items => cases h
  | text s _ =>
      simp only [Value.isTruthy, Bool.not_eq_false'] at h
      simp [Value.memberBindings, Value.members?, Value.ofCharacters, String.isEmpty_iff.mp h]
  | bytes octets _ =>
      cases octets with
      | nil => rfl
      | cons octet octets => cases h
  | null | bool _ | int _ _ | float _ _ => rfl
  | _ => cases h

theorem length_fragments (fragment : Raw) :
    fragment.fragments.length = Raw.markerCount fragment.text.text + 1 := by
  have hsplit : ∀ cs : List Char, (Text.split (· == '?') cs).2.length = cs.count '?' := by
    intro cs
    induction cs with
    | nil => rfl
    | cons c cs ih =>
        simp only [Text.split, List.count_cons]
        split <;> simp_all
  simp only [Raw.fragments, Text.splitAt, Text.splitAll, List.length_map, List.length_cons, hsplit,
    Raw.markerCount]

theorem length_conditionLayouts (vs : List Value) :
    (Value.conditionLayouts vs).length = vs.length := by
  induction vs with
  | nil => rfl
  | cons _ vs ih => exact congrArg (· + 1) ih

theorem length_keyConditionLayouts (entries : List (Value × Value)) :
    (Value.keyConditionLayouts entries).length = entries.length := by
  induction entries with
  | nil => rfl
  | cons _ entries ih => exact congrArg (· + 1) ih

theorem bindingsIn_inSubselect (id : SelectId) :
    bindingsIn counts sub (.word " IN " :: Piece.parenthesized [.subselect id]) = sub id :=
  (bindingsIn_parenthesized _).trans (List.append_nil _)

theorem bindingsIn_inStream (number : Nat) {items : List (List Piece)} {each : List (List Value)}
    (h : items.map (bindingsIn counts sub) = each) :
    bindingsIn counts sub (.word " IN " :: Piece.parenthesized [.streamed number items]) =
      each.flatten := by
  refine (bindingsIn_parenthesized _).trans ((List.append_nil _).trans ?_)
  rw [Piece.bindings, bindingsInItems_eq, h]

theorem bindingsIn_membership {column values : Value}
    (h : values.memberLayouts.map (bindingsIn counts sub) = values.memberBindings sub) :
    bindingsIn counts sub
        (if values.isTruthy then
          Piece.column column
            (.word " IN " :: Piece.parenthesized (Piece.joined ", " values.memberLayouts))
        else Piece.lateColumn column [.refused (.noMembers column)]) =
      (values.memberBindings sub).flatten := by
  split
  · rw [bindingsIn_column, ← h, ← bindingsIn_joined ", "]
    exact bindingsIn_parenthesized _
  · rename_i hfalsy
    rw [bindingsIn_lateColumn, memberBindings_of_falsy (Bool.eq_false_iff.mpr hfalsy)]
    rfl

/-! ## Values and conditions -/

mutual

theorem Value.bindingsIn_layout (v : Value) : bindingsIn counts sub v.layout = v.bindings sub := by
  cases v with
  | condition c =>
      cases c with
      | raw fragment => exact fragment.bindingsIn_layout
      | _ => rfl
  | statement r =>
      cases r with
      | select id => exact (bindingsIn_parenthesized _).trans (List.append_nil _)
      | _ => rfl
  | _ => rfl

theorem Value.bindingsIn_layouts : (vs : List Value) →
    (Value.layouts vs).map (bindingsIn counts sub) = Value.eachBindings sub vs
  | [] => rfl
  | v :: vs => by
      simp only [Value.layouts, Value.eachBindings, List.map_cons, v.bindingsIn_layout,
        Value.bindingsIn_layouts vs]

theorem Value.bindingsIn_keyLayouts : (entries : List (Value × Value)) →
    (Value.keyLayouts entries).map (bindingsIn counts sub) = Value.keyBindings sub entries
  | [] => rfl
  | (key, _) :: entries => by
      simp only [Value.keyLayouts, Value.keyBindings, List.map_cons, key.bindingsIn_layout,
        Value.bindingsIn_keyLayouts entries]

theorem Value.bindingsIn_memberLayouts (v : Value) :
    v.memberLayouts.map (bindingsIn counts sub) = v.memberBindings sub := by
  cases v with
  | list items _ | tuple items _ | set items _ | stream items _ =>
      exact Value.bindingsIn_layouts items
  | map entries _ => exact Value.bindingsIn_keyLayouts entries
  | _ => exact List.map_map ..

theorem Raw.bindingsIn_layout : (fragment : Raw) →
    bindingsIn counts sub fragment.layout = fragment.bindings sub
  | ⟨text, values, serial⟩ => by
      simp only [Raw.layout, bindingsIn_interleave, length_fragments, Nat.add_sub_cancel,
        values.bindingsIn_memberLayouts, Raw.bindings]

theorem Value.bindingsIn_conditionLayout (v : Value) :
    bindingsIn counts sub v.conditionLayout = v.conditionBindings sub := by
  cases v with
  | condition c => exact c.bindingsIn_layout
  | _ => rfl

theorem Value.bindingsIn_conditionLayouts : (vs : List Value) →
    ((Value.conditionLayouts vs).map (bindingsIn counts sub)).flatten =
      Value.conditionsBindings sub vs
  | [] => rfl
  | v :: vs => by
      simp only [Value.conditionLayouts, Value.conditionsBindings, List.map_cons, List.flatten_cons,
        v.bindingsIn_conditionLayout, Value.bindingsIn_conditionLayouts vs]

theorem Value.bindingsIn_keyConditionLayouts : (entries : List (Value × Value)) →
    ((Value.keyConditionLayouts entries).map (bindingsIn counts sub)).flatten =
      Value.keyConditionsBindings sub entries
  | [] => rfl
  | (key, _) :: entries => by
      simp only [Value.keyConditionLayouts, Value.keyConditionsBindings, List.map_cons,
        List.flatten_cons, key.bindingsIn_conditionLayout,
        Value.bindingsIn_keyConditionLayouts entries]

theorem Value.bindingsIn_operandsLayout (op : Connective) (v : Value) :
    bindingsIn counts sub (v.operandsLayout op) = v.operandsBindings sub := by
  cases v with
  | list items _ | tuple items _ | set items _ =>
      exact (bindingsIn_operands op (length_conditionLayouts items).symm).trans
        (Value.bindingsIn_conditionLayouts items)
  | map entries _ =>
      match entries with
      | [] => rfl
      | [(_, only)] => exact only.bindingsIn_conditionLayout
      | first :: second :: rest =>
          simp only [Value.operandsLayout, Value.operandsBindings]
          refine (bindingsIn_operands op ?_).trans
            (Value.bindingsIn_keyConditionLayouts (first :: second :: rest))
          rw [List.length_map, length_keyConditionLayouts]
  | _ => rfl

theorem Condition.bindingsIn_layout : (c : Condition) →
    bindingsIn counts sub c.layout = c.bindings sub
  | .comparison op column value serial => by
      have hop : Piece.bindings counts sub op.operator = [] := by
        unfold Value.operator
        split <;> rfl
      simp only [Condition.layout, Condition.bindings, bindingsIn_column, bindingsIn,
        Piece.bindings, hop, List.nil_append, value.bindingsIn_layout]
  | .isNull column negated serial => bindingsIn_column ..
  | .between column low high serial => by
      simp only [Condition.layout, Condition.bindings, bindingsIn_lateColumn, bindingsIn,
        bindingsIn_append, Piece.bindings, List.nil_append, low.bindingsIn_layout,
        high.bindingsIn_layout]
  | .pattern column value ignoresCase serial => by
      simp only [Condition.layout, Condition.bindings, bindingsIn_column, bindingsIn,
        Piece.bindings, List.nil_append, value.bindingsIn_layout]
  | .membership column values serial => by
      cases values with
      | statement r =>
          cases r with
          | select id => exact (bindingsIn_column ..).trans (bindingsIn_inSubselect id)
          | _ => exact bindingsIn_column ..
      | stream items number =>
          exact (bindingsIn_column ..).trans
            (bindingsIn_inStream number (Value.bindingsIn_layouts items))
      | _ =>
          simp only [Condition.layout, Condition.bindings]
          exact bindingsIn_membership (Value.bindingsIn_memberLayouts _)
  | .logical op operands serial => operands.bindingsIn_operandsLayout op
  | .negation inner serial => (bindingsIn_negated ..).trans inner.bindingsIn_conditionLayout
  | .existence subselect negated serial => by
      cases subselect with
      | statement r =>
          cases r with
          | select id => exact (bindingsIn_parenthesized _).trans (List.append_nil _)
          | _ => rfl
      | _ => rfl
  | .raw fragment => fragment.bindingsIn_layout
  | .unspecified serial => rfl

end

/-! ## Clauses -/

theorem Column.bindingsIn_layout (column : Column) :
    bindingsIn counts sub column.layout = column.bindings sub := by
  cases column with
  | named name => rfl
  | raw fragment => exact fragment.bindingsIn_layout
  | subselect id => exact (bindingsIn_parenthesized _).trans (List.append_nil _)

theorem Column.bindingsIn_orderLayout (column : Column) :
    bindingsIn counts sub column.orderLayout = column.bindings sub := by
  cases column with
  | named name => rfl
  | raw fragment => exact fragment.bindingsIn_layout
  | subselect id => exact (bindingsIn_parenthesized _).trans (List.append_nil _)

theorem bindingsIn_map {α : Type} {layout : α → List Piece} {bindings : α → List Value}
    (h : ∀ a, bindingsIn counts sub (layout a) = bindings a) (as : List α) :
    ((as.map layout).map (bindingsIn counts sub)).flatten = as.flatMap bindings := by
  rw [List.map_map, ← List.flatMap_def]
  exact congrArg (as.flatMap ·) (funext h)

theorem Column.bindingsIn_listLayout (columns : List Column) :
    bindingsIn counts sub (Column.listLayout columns) = columns.flatMap (·.bindings sub) :=
  (bindingsIn_joined ..).trans (bindingsIn_map Column.bindingsIn_layout columns)

theorem Source.bindingsIn_layout (sourceAlias : Option Name) (source : Source) :
    bindingsIn counts sub (source.layout sourceAlias) = source.bindings sub := by
  cases source with
  | table name => rfl
  | subselect id =>
      simp only [Source.layout, bindingsIn_append, bindingsIn_parenthesized, Source.bindings]
      cases sourceAlias <;> simp [bindingsIn, Piece.bindings]

theorem JoinTerms.bindingsIn_layout (terms : JoinTerms) :
    bindingsIn counts sub terms.layout = terms.bindings sub := by
  cases terms with
  | pairs columns =>
      refine (bindingsIn_joined ..).trans ((bindingsIn_map (fun _ => rfl) columns).trans ?_)
      exact List.flatMap_eq_nil_iff.mpr fun _ _ => rfl
  | condition c => exact c.bindingsIn_layout

theorem bindingsIn_optional {α : Type} {layout : α → List Piece} {bindings : α → List Value}
    (h : ∀ a, bindingsIn counts sub (layout a) = bindings a) (clause : Option α) :
    ((optional clause layout).map (bindingsIn counts sub)).flatten = clause.elim [] bindings := by
  cases clause with
  | none => rfl
  | some part => exact (List.append_nil _).trans (h part)

theorem ConditionClause.bindingsIn_layout (clause : ConditionClause)
    (condition : Option Condition) :
    ((clause.layout condition).map (bindingsIn counts sub)).flatten =
      conditionBindings sub condition := by
  have h (c : Condition) : bindingsIn counts sub (.word (clause.text ++ " ") :: c.layout) =
      c.bindings sub := c.bindingsIn_layout
  exact bindingsIn_optional h condition

theorem bindingsIn_expressions {layout : List Column → List Piece}
    (h : ∀ columns, bindingsIn counts sub (layout columns) = columns.flatMap (·.bindings sub))
    (columns : List Column) :
    ((optional (expressions columns) layout).map (bindingsIn counts sub)).flatten =
      columns.flatMap (·.bindings sub) := by
  rw [bindingsIn_optional h]
  cases columns <;> rfl

theorem bindingsIn_orAll (columns : List Column) :
    bindingsIn counts sub (if columns.isEmpty then [.word "*"] else Column.listLayout columns) =
      columns.flatMap (·.bindings sub) := by
  cases columns with
  | nil => rfl
  | cons column columns => exact Column.bindingsIn_listLayout (column :: columns)

theorem bindingsIn_returningLayout (returning : Option (List Column)) :
    ((returningLayout returning).map (bindingsIn counts sub)).flatten =
      returningBindings sub returning := by
  refine (bindingsIn_optional
    (fun columns => (bindingsIn_word ..).trans (bindingsIn_orAll columns)) returning).trans ?_
  cases returning <;> rfl

/-! ## Statements -/

theorem bindingsIn_counted (word : String) (count : Option Nat) :
    ((optional count fun n => [.word word, .count n]).map (bindingsIn counts sub)).flatten =
      if counts then count.toList.map (.int · 0) else [] := by
  cases count <;> cases counts <;> rfl

theorem bindingsIn_switched (switch : Bool) (word : String) :
    ((if switch then [[Piece.word word]] else []).map (bindingsIn counts sub)).flatten = [] := by
  cases switch <;> rfl

theorem Select.bindingsIn_layout (s : Select) :
    bindingsIn counts sub s.layout = s.bindings sub counts := by
  have hcolumns : ([if s.columns.isEmpty then [.word "*"]
      else Column.listLayout s.columns].map (bindingsIn counts sub)).flatten =
        s.columns.flatMap (·.bindings sub) :=
    (List.append_nil _).trans (bindingsIn_orAll s.columns)
  have hsource : ((optional s.source fun source =>
      .word "FROM " :: source.layout s.sourceAlias).map (bindingsIn counts sub)).flatten =
        s.source.elim [] (·.bindings sub) :=
    bindingsIn_optional
      (fun source => (bindingsIn_word ..).trans (source.bindingsIn_layout s.sourceAlias)) s.source
  have hjoins : ((s.joins.map Join.layout).map (bindingsIn counts sub)).flatten =
      s.joins.flatMap (·.terms.bindings sub) :=
    bindingsIn_map (fun join => join.terms.bindingsIn_layout) s.joins
  have hgrouping : ((optional (expressions s.grouping) fun columns =>
      .word "GROUP BY " :: Column.listLayout columns).map (bindingsIn counts sub)).flatten =
        s.grouping.flatMap (·.bindings sub) :=
    bindingsIn_expressions
      (fun columns => (bindingsIn_word ..).trans (Column.bindingsIn_listLayout columns)) s.grouping
  have horder : ((optional (expressions s.order) fun columns =>
      .word "ORDER BY " :: Piece.joined ", " (columns.map Column.orderLayout)).map
        (bindingsIn counts sub)).flatten = s.order.flatMap (·.bindings sub) :=
    bindingsIn_expressions (fun columns => (bindingsIn_word ..).trans <|
      (bindingsIn_joined ..).trans (bindingsIn_map Column.bindingsIn_orderLayout columns)) s.order
  simp only [Select.layout, Select.clauses, bindingsIn_joined, List.map_append, List.flatten_append,
    bindingsIn_switched, ConditionClause.bindingsIn_layout, bindingsIn_counted]
  rw [hcolumns, hsource, hjoins, hgrouping, horder, Select.bindings]
  cases counts <;> simp [bindingsIn, Piece.bindings]

theorem Row.bindingsIn_layout (columns : List Name) (row : Row) :
    bindingsIn counts sub (row.layout columns) = row.bindings sub columns := by
  have hcell (column : Name) : bindingsIn counts sub (row.cellLayout column) =
      (row.value? column).elim [] (·.bindings sub) := by
    unfold Row.cellLayout
    cases row.value? column with
    | none => rfl
    | some value => exact value.bindingsIn_layout
  exact (bindingsIn_parenthesized _).trans <|
    (bindingsIn_joined ..).trans (bindingsIn_map hcell columns)

theorem bindingsIn_contents (s : Insert) :
    (s.contents.map (bindingsIn counts sub)).flatten =
      if s.rows.isEmpty then s.source.elim [] sub
      else s.rows.flatMap (·.bindings sub s.columnNames) := by
  have hnames (names : List Name) : bindingsIn counts sub (identifierList names) = [] := by
    refine (bindingsIn_joined ..).trans ((bindingsIn_map (fun _ => rfl) names).trans ?_)
    exact List.flatMap_eq_nil_iff.mpr fun _ _ => rfl
  have hrows : bindingsIn counts sub
      (Piece.joined ", " (s.rows.map (Row.layout s.columnNames))) =
        s.rows.flatMap (·.bindings sub s.columnNames) :=
    (bindingsIn_joined ..).trans (bindingsIn_map (Row.bindingsIn_layout s.columnNames) s.rows)
  unfold Insert.contents
  cases s.rows.isEmpty with
  | false => simp [bindingsIn, Piece.bindings, hnames, hrows]
  | true =>
      cases s.source with
      | none => rfl
      | some id => cases s.columns.isEmpty <;> simp [bindingsIn, Piece.bindings, hnames]

theorem Insert.bindingsIn_layout {s : Insert} {table : Name} (h : s.table = some table) :
    bindingsIn counts sub s.layout = s.bindings sub := by
  rw [Insert.layout, h]
  simp only [bindingsIn_joined, List.map_append, List.flatten_append, bindingsIn_returningLayout,
    bindingsIn_contents]
  rfl

theorem Update.bindingsIn_layout {s : Update} {table : Name} (h : s.table = some table)
    (hassigned : s.assignments.isEmpty = false) :
    bindingsIn counts sub s.layout = s.bindings sub := by
  have hassignments : bindingsIn counts sub
      (Piece.joined ", " (s.assignments.map assignmentLayout)) =
        s.assignments.flatMap fun assignment => assignment.2.bindings sub :=
    (bindingsIn_joined ..).trans
      (bindingsIn_map (fun assignment => assignment.2.bindingsIn_layout) s.assignments)
  rw [Update.layout, h]
  simp [hassigned, bindingsIn_returningLayout, ConditionClause.bindingsIn_layout, assignmentsLayout,
    bindingsIn, Piece.bindings, hassignments, Update.bindings]

theorem Delete.bindingsIn_layout {s : Delete} {table : Name} (h : s.table = some table) :
    bindingsIn counts sub s.layout = s.bindings sub := by
  rw [Delete.layout, h]
  simp only [bindingsIn_joined, List.map_append, List.flatten_append, bindingsIn_returningLayout,
    ConditionClause.bindingsIn_layout]
  rfl

end Layouts

end SqlComposer
