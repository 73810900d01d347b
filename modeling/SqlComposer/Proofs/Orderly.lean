import SqlComposer.Proofs.Bindings

/-!
# Orderly layouts

Conditions that have been checked, and statements that have all they need, are laid out as pieces of
which none is refused, shown as a text or taken from a stream. No layout binds a SELECT as a value,
checked or not.
-/

namespace SqlComposer

/-! ## Pieces -/

mutual

/-- Whether a piece binds no SELECT as a value and, if `strict`, is neither refused nor shown as a
text nor taken from a stream, itself or in what stands in it. -/
def Piece.isOrderly (strict : Bool) : Piece → Bool
  | .value v => v.select?.isNone
  | .display _ => !strict
  | .streamed _ items => !strict && orderlyInItems strict items
  | .unnamed _ behind => !strict && orderlyIn strict behind
  | .lateIdentifier _ behind => orderlyIn strict behind
  | .refused _ => !strict
  | _ => true

def orderlyIn (strict : Bool) : List Piece → Bool
  | [] => true
  | piece :: pieces => piece.isOrderly strict && orderlyIn strict pieces

def orderlyInItems (strict : Bool) : List (List Piece) → Bool
  | [] => true
  | item :: items => orderlyIn strict item && orderlyInItems strict items

end

section Pieces

variable {strict : Bool}

/-- What fails a check that is made for strict layouts need not be laid out strictly. -/
theorem lax_of_failed {checked : Bool} (h : strict → checked) (hno : checked = false) :
    strict = false := by
  cases strict with
  | true => cases hno.symm.trans (h rfl)
  | false => rfl

@[simp] theorem orderlyIn_nil : orderlyIn strict [] = true := by
  rw [orderlyIn]

@[simp] theorem orderlyIn_cons (piece : Piece) (pieces : List Piece) :
    orderlyIn strict (piece :: pieces) = (piece.isOrderly strict && orderlyIn strict pieces) :=
  rfl

@[simp] theorem orderlyIn_append (front back : List Piece) :
    orderlyIn strict (front ++ back) = (orderlyIn strict front && orderlyIn strict back) := by
  induction front with
  | nil => rfl
  | cons piece pieces ih => simp only [List.cons_append, orderlyIn_cons, ih, Bool.and_assoc]

theorem orderlyInItems_eq (items : List (List Piece)) :
    orderlyInItems strict items = items.all (orderlyIn strict) := by
  induction items with
  | nil => rfl
  | cons item items ih => simp only [orderlyInItems, ih, List.all_cons]

@[simp] theorem orderlyIn_parenthesized (pieces : List Piece) :
    orderlyIn strict (Piece.parenthesized pieces) = orderlyIn strict pieces := by
  simp [Piece.parenthesized, Piece.isOrderly]

@[simp] theorem orderlyIn_joined (word : String) : (parts : List (List Piece)) →
    orderlyIn strict (Piece.joined word parts) = parts.all (orderlyIn strict)
  | [] => rfl
  | [part] => by simp [Piece.joined]
  | part :: next :: parts => by
      have hrest := orderlyIn_joined word (next :: parts)
      simp only [Piece.joined] at hrest ⊢
      rw [List.intercalate_cons_cons, orderlyIn_append, orderlyIn_append, hrest]
      simp [Piece.isOrderly]

theorem orderlyIn_column {given : Value} {behind : List Piece}
    (hname : strict → given.name?.isSome) (h : orderlyIn strict behind) :
    orderlyIn strict (Piece.column given behind) := by
  unfold Piece.column
  split
  · exact h
  · rename_i hnone
    obtain rfl := lax_of_failed hname (by rw [hnone]; rfl)
    exact h

theorem orderlyIn_lateColumn {given : Value} {behind : List Piece}
    (hname : strict → given.name?.isSome) (h : orderlyIn strict behind) :
    orderlyIn strict (Piece.lateColumn given behind) := by
  unfold Piece.lateColumn
  split
  · exact h
  · rename_i hnone
    obtain rfl := lax_of_failed hname (by rw [hnone]; rfl)
    simpa [Piece.isOrderly] using h

/-! ## Parts of conditions -/

theorem orderlyIn_interleave : (parts : List String) → {values : List (List Piece)} →
    values.all (orderlyIn strict) → orderlyIn strict (interleave parts values)
  | [], _, _ => rfl
  | [_], _, _ => by simp [interleave, Piece.isOrderly]
  | _ :: _ :: _, [], _ => by simp [interleave, Piece.isOrderly]
  | part :: next :: parts, value :: values, h => by
      rw [List.all_cons, Bool.and_eq_true] at h
      have hrest := orderlyIn_interleave (next :: parts) h.2
      simp [interleave, Piece.isOrderly, h.1, hrest]

theorem orderlyIn_asOperand (op : Connective) (v : Value) (pieces : List Piece) :
    orderlyIn strict (v.asOperand op pieces) = orderlyIn strict pieces := by
  unfold Value.asOperand
  split
  · exact orderlyIn_parenthesized pieces
  · rfl

theorem orderlyIn_asOperands (op : Connective) : {operands : List Value} →
    {parts : List (List Piece)} → parts.all (orderlyIn strict) →
      (List.zipWith (Value.asOperand op) operands parts).all (orderlyIn strict)
  | [], _, _ => rfl
  | _ :: _, [], _ => rfl
  | v :: operands, part :: parts, h => by
      rw [List.all_cons, Bool.and_eq_true] at h
      rw [List.zipWith_cons_cons, List.all_cons, orderlyIn_asOperand, h.1,
        orderlyIn_asOperands op h.2]
      rfl

theorem orderlyIn_operands (op : Connective) {operands : List Value} {parts : List (List Piece)}
    (h : parts.all (orderlyIn strict)) : orderlyIn strict (op.joined operands parts) := by
  unfold Connective.joined
  split
  · simpa using h
  · rw [orderlyIn_joined]
    exact orderlyIn_asOperands op h

theorem orderlyIn_negated {v : Value} {pieces : List Piece} (h : orderlyIn strict pieces) :
    orderlyIn strict (v.negated pieces) := by
  unfold Value.negated
  split
  · simpa [Piece.isOrderly] using h
  · simpa [Piece.isOrderly] using h

end Pieces

/-! ## Checked conditions -/

/-- Whether a column can be looked up in a value: a SELECT, or a tuple that is not empty. -/
def Value.hasMembers : Value → Bool
  | .statement (.select _) => true
  | .tuple (_ :: _) _ => true
  | _ => false

mutual

/-- Whether a condition is what the checks let through: its columns and its operator are names, its
operands are checked conditions, and what is asked for rows is a SELECT. -/
def Condition.isChecked : Condition → Bool
  | .comparison op column _ _ => op.name?.isSome && column.name?.isSome
  | .isNull column _ _ => column.name?.isSome
  | .between column _ _ _ => column.name?.isSome
  | .pattern column _ _ _ => column.name?.isSome
  | .membership column values _ => column.name?.isSome && values.hasMembers
  | .logical _ operands _ => operands.areCheckedOperands
  | .negation inner _ => inner.isCheckedOperand
  | .existence subselect _ _ => subselect.select?.isSome
  | .raw _ => true
  | .unspecified _ => false

def Value.isCheckedOperand : Value → Bool
  | .condition c => c.isChecked
  | _ => false

def Value.allChecked : List Value → Bool
  | [] => true
  | v :: vs => v.isCheckedOperand && Value.allChecked vs

def Value.areCheckedOperands : Value → Bool
  | .tuple items _ => Value.allChecked items
  | _ => false

end

section Layouts

variable {strict : Bool}

/-! ## Values -/

mutual

theorem Value.orderly_layout (v : Value) : orderlyIn strict v.layout := by
  cases v with
  | condition c =>
      cases c with
      | raw fragment => exact fragment.orderly_layout
      | _ => rfl
  | statement r =>
      cases r with
      | select id => simp [Value.layout, Piece.isOrderly]
      | _ => rfl
  | _ => rfl

theorem Value.orderly_layouts : (vs : List Value) → (Value.layouts vs).all (orderlyIn strict)
  | [] => rfl
  | v :: vs => by
      rw [Value.layouts, List.all_cons, v.orderly_layout, Value.orderly_layouts vs]
      rfl

theorem Value.orderly_keyLayouts : (entries : List (Value × Value)) →
    (Value.keyLayouts entries).all (orderlyIn strict)
  | [] => rfl
  | (key, _) :: entries => by
      rw [Value.keyLayouts, List.all_cons, key.orderly_layout, Value.orderly_keyLayouts entries]
      rfl

theorem Value.orderly_memberLayouts (v : Value) : v.memberLayouts.all (orderlyIn strict) := by
  cases v with
  | list items _ | tuple items _ | set items _ | stream items _ =>
      exact Value.orderly_layouts items
  | map entries _ => exact Value.orderly_keyLayouts entries
  | text s _ | keyword word =>
      simp [Value.memberLayouts, Value.members?, Value.ofCharacters, Piece.isOrderly, Value.ofText,
        Value.select?]
  | bytes octets _ =>
      simp [Value.memberLayouts, Value.members?, Value.ofOctets, Piece.isOrderly, Value.select?]
  | _ => rfl

theorem Raw.orderly_layout : (fragment : Raw) → orderlyIn strict fragment.layout
  | ⟨text, values, serial⟩ =>
      orderlyIn_interleave (Raw.fragments ⟨text, values, serial⟩) values.orderly_memberLayouts

end

/-! ## Conditions -/

theorem orderly_operator {op : Value} (h : strict → op.name?.isSome) :
    op.operator.isOrderly strict := by
  unfold Value.operator
  split
  · rfl
  · rename_i hnone
    obtain rfl := lax_of_failed h (by rw [hnone]; rfl)
    rfl

theorem orderly_membersList {parts : List (List Piece)} (h : parts.all (orderlyIn strict)) :
    orderlyIn strict (.word " IN " :: Piece.parenthesized (Piece.joined ", " parts)) := by
  simpa [Piece.isOrderly] using h

theorem orderly_membership {column values : Value} (serial : Serial)
    (hname : strict → column.name?.isSome) (hmembers : strict → values.hasMembers) :
    orderlyIn strict (Condition.membership column values serial).layout := by
  cases values with
  | statement r =>
      cases r with
      | select id => exact orderlyIn_column hname (by simp [Piece.isOrderly])
      | _ =>
          obtain rfl := lax_of_failed hmembers rfl
          exact orderlyIn_column hname rfl
  | tuple items _ =>
      cases items with
      | nil =>
          obtain rfl := lax_of_failed hmembers rfl
          exact orderlyIn_lateColumn hname rfl
      | cons item items =>
          exact orderlyIn_column hname (orderly_membersList (Value.orderly_layouts _))
  | stream items number =>
      obtain rfl := lax_of_failed hmembers rfl
      have hitems : (Value.layouts items).all (orderlyIn false) := Value.orderly_layouts items
      refine orderlyIn_column hname ?_
      simpa [Piece.isOrderly, orderlyInItems_eq] using hitems
  | _ =>
      obtain rfl := lax_of_failed hmembers rfl
      simp only [Condition.layout]
      split
      · exact orderlyIn_column hname (orderly_membersList (Value.orderly_memberLayouts _))
      · exact orderlyIn_lateColumn hname rfl

mutual

theorem Value.orderly_conditionLayout (v : Value) (h : strict → v.isCheckedOperand) :
    orderlyIn strict v.conditionLayout := by
  cases v with
  | condition c => exact c.orderly_layout h
  | _ =>
      obtain rfl := lax_of_failed h rfl
      rfl

theorem Value.orderly_conditionLayouts : (vs : List Value) → (strict → Value.allChecked vs) →
    (Value.conditionLayouts vs).all (orderlyIn strict)
  | [], _ => rfl
  | v :: vs, h => by
      have hboth := fun hs => Bool.and_eq_true_iff.mp (h hs)
      have hfirst := v.orderly_conditionLayout fun hs => (hboth hs).1
      have hrest := Value.orderly_conditionLayouts vs fun hs => (hboth hs).2
      rw [Value.conditionLayouts, List.all_cons, hfirst, hrest]
      rfl

theorem Value.orderly_keyConditionLayouts (hlax : ¬ strict) : (entries : List (Value × Value)) →
    (Value.keyConditionLayouts entries).all (orderlyIn strict)
  | [] => rfl
  | (key, _) :: entries => by
      rw [Value.keyConditionLayouts, List.all_cons,
        key.orderly_conditionLayout fun hs => absurd hs hlax,
        Value.orderly_keyConditionLayouts hlax entries]
      rfl

theorem Value.orderly_operandsLayout (op : Connective) (v : Value)
    (h : strict → v.areCheckedOperands) : orderlyIn strict (v.operandsLayout op) := by
  have hlax (hno : v.areCheckedOperands = false) : ¬ strict :=
    Bool.eq_false_iff.mp (lax_of_failed h hno)
  cases v with
  | tuple items _ => exact orderlyIn_operands op (Value.orderly_conditionLayouts items h)
  | list items _ | set items _ =>
      have hitems := Value.orderly_conditionLayouts items fun hs => absurd hs (hlax rfl)
      exact orderlyIn_operands op hitems
  | map entries _ =>
      match entries with
      | [] => rfl
      | [(_, only)] => exact only.orderly_conditionLayout fun hs => absurd hs (hlax rfl)
      | first :: second :: rest =>
          have hkeys := Value.orderly_keyConditionLayouts (hlax rfl) (first :: second :: rest)
          simp only [Value.operandsLayout]
          exact orderlyIn_operands op hkeys
  | _ => simpa [Value.operandsLayout, Piece.isOrderly] using hlax rfl

theorem Condition.orderly_layout (c : Condition) (h : strict → c.isChecked) :
    orderlyIn strict c.layout := by
  cases c with
  | comparison op column value serial =>
      simp only [Condition.isChecked, Bool.and_eq_true] at h
      refine orderlyIn_column (fun hs => (h hs).2) ?_
      simp [Piece.isOrderly, orderly_operator fun hs => (h hs).1, value.orderly_layout]
  | isNull column negated serial => exact orderlyIn_column h (by simp [Piece.isOrderly])
  | between column low high serial =>
      refine orderlyIn_lateColumn h ?_
      simp [Piece.isOrderly, low.orderly_layout, high.orderly_layout]
  | pattern column value ignoresCase serial =>
      exact orderlyIn_column h (by simp [Piece.isOrderly, value.orderly_layout])
  | membership column values serial =>
      simp only [Condition.isChecked, Bool.and_eq_true] at h
      exact orderly_membership serial (fun hs => (h hs).1) fun hs => (h hs).2
  | logical op operands serial => exact operands.orderly_operandsLayout op h
  | negation inner serial => exact orderlyIn_negated (inner.orderly_conditionLayout h)
  | existence subselect negated serial =>
      cases subselect with
      | statement r =>
          cases r with
          | select id => simp [Condition.layout, Piece.isOrderly]
          | _ =>
              obtain rfl := lax_of_failed h rfl
              rfl
      | _ =>
          obtain rfl := lax_of_failed h rfl
          rfl
  | raw fragment => exact fragment.orderly_layout
  | unspecified serial =>
      obtain rfl := lax_of_failed h rfl
      rfl

end

/-! ## Clauses -/

theorem Column.orderly_layout (column : Column) : orderlyIn strict column.layout := by
  cases column with
  | named name => rfl
  | raw fragment => exact fragment.orderly_layout
  | subselect id => simp [Column.layout, Piece.isOrderly]

theorem Column.orderly_orderLayout (column : Column) : orderlyIn strict column.orderLayout := by
  cases column with
  | named name => rfl
  | raw fragment => exact fragment.orderly_layout
  | subselect id => exact Column.orderly_layout (.subselect id)

theorem orderly_map {α : Type} {layout : α → List Piece} {as : List α}
    (h : ∀ a ∈ as, orderlyIn strict (layout a)) : (as.map layout).all (orderlyIn strict) := by
  simpa [List.all_map] using h

theorem orderly_optional {α : Type} {layout : α → List Piece} {clause : Option α}
    (h : ∀ a, clause = some a → orderlyIn strict (layout a)) :
    (optional clause layout).all (orderlyIn strict) := by
  cases clause with
  | none => rfl
  | some part => simpa [optional] using h part rfl

theorem Column.orderly_listLayout (columns : List Column) :
    orderlyIn strict (Column.listLayout columns) :=
  (orderlyIn_joined ..).trans (orderly_map fun column _ => column.orderly_layout)

theorem orderly_orAll (columns : List Column) :
    orderlyIn strict (if columns.isEmpty then [.word "*"] else Column.listLayout columns) := by
  split
  · rfl
  · exact Column.orderly_listLayout columns

theorem Source.orderly_layout (sourceAlias : Option Name) (source : Source) :
    orderlyIn strict (source.layout sourceAlias) := by
  cases source with
  | table name => rfl
  | subselect id => cases sourceAlias <;> simp [Source.layout, Piece.isOrderly]

theorem orderly_identifierList (names : List Name) : orderlyIn strict (identifierList names) :=
  (orderlyIn_joined ..).trans (orderly_map fun _ _ => rfl)

theorem orderly_returningLayout (returning : Option (List Column)) :
    (returningLayout returning).all (orderlyIn strict) :=
  orderly_optional fun columns _ => orderly_orAll columns

/-- Whether the condition of a clause, if it has one, is checked. -/
def checkedClause (clause : Option Condition) : Bool :=
  clause.all Condition.isChecked

theorem ConditionClause.orderly_layout (clause : ConditionClause) {condition : Option Condition}
    (h : strict → checkedClause condition) :
    (clause.layout condition).all (orderlyIn strict) := by
  refine orderly_optional fun c hc => ?_
  subst hc
  exact c.orderly_layout h

def JoinTerms.isChecked : JoinTerms → Bool
  | .pairs _ => true
  | .condition c => c.isChecked

theorem JoinTerms.orderly_layout {terms : JoinTerms} (h : strict → terms.isChecked) :
    orderlyIn strict terms.layout := by
  cases terms with
  | pairs columns => exact (orderlyIn_joined ..).trans (orderly_map fun _ _ => rfl)
  | condition c => exact c.orderly_layout h

/-! ## Statements -/

/-- Whether the conditions of a SELECT are checked. -/
def Select.isSound (s : Select) : Bool :=
  s.joins.all (·.terms.isChecked) && checkedClause s.rows && checkedClause s.groups

theorem Select.orderly_layout {s : Select} (h : strict → s.isSound) :
    orderlyIn strict s.layout := by
  simp only [Select.isSound, Bool.and_eq_true] at h
  have hjoins : (s.joins.map Join.layout).all (orderlyIn strict) :=
    orderly_map fun join hjoin =>
      JoinTerms.orderly_layout fun hs => List.all_eq_true.mp (h hs).1.1 join hjoin
  have hrows := ConditionClause.rows.orderly_layout fun hs => (h hs).1.2
  have hgroups := ConditionClause.groups.orderly_layout fun hs => (h hs).2
  have hsource : (optional s.source fun source =>
      .word "FROM " :: source.layout s.sourceAlias).all (orderlyIn strict) :=
    orderly_optional fun source _ => source.orderly_layout s.sourceAlias
  have hgrouping : (optional (expressions s.grouping) fun columns =>
      .word "GROUP BY " :: Column.listLayout columns).all (orderlyIn strict) :=
    orderly_optional fun columns _ => Column.orderly_listLayout columns
  have horder : (optional (expressions s.order) fun columns =>
      .word "ORDER BY " :: Piece.joined ", " (columns.map Column.orderLayout)).all
        (orderlyIn strict) :=
    orderly_optional fun columns _ =>
      (orderlyIn_joined ..).trans (orderly_map fun column _ => column.orderly_orderLayout)
  have hcount (word : String) (count : Option Nat) :
      (optional count fun n => [.word word, .count n]).all (orderlyIn strict) :=
    orderly_optional fun _ _ => rfl
  have hswitch (switch : Bool) (word : String) :
      (if switch then [[Piece.word word]] else []).all (orderlyIn strict) := by
    cases switch <;> rfl
  rw [Select.layout, orderlyIn_joined]
  simp only [Select.clauses, List.all_append, hjoins, hrows, hgroups, hsource, hgrouping, horder,
    hcount, hswitch, Bool.and_true]
  simp only [List.all_cons, List.all_nil, orderly_orAll]
  rfl

/-- Whether a row has a value for each of the given columns. -/
def Row.covers (columns : List Name) (row : Row) : Bool :=
  columns.all fun column => (row.value? column).isSome

theorem Row.orderly_layout {columns : List Name} {row : Row} (h : strict → row.covers columns) :
    orderlyIn strict (row.layout columns) := by
  have hcell (column : Name) (hcolumn : column ∈ columns) :
      orderlyIn strict (row.cellLayout column) := by
    unfold Row.cellLayout
    split
    · rename_i value _
      exact value.orderly_layout
    · rename_i hnone
      have hsome (hs : strict) := List.all_eq_true.mp (h hs) column hcolumn
      obtain rfl := lax_of_failed hsome (by rw [hnone]; rfl)
      rfl
  exact (orderlyIn_parenthesized _).trans ((orderlyIn_joined ..).trans (orderly_map hcell))

/-- Whether each row of an INSERT has a value for every column that is written. -/
def Insert.isSound (s : Insert) : Bool :=
  s.rows.all (·.covers s.columnNames)

/-- Whether an INSERT has a table, and rows or a subselect that they come from. -/
def Insert.isComplete (s : Insert) : Bool :=
  s.table.isSome && (!s.rows.isEmpty || s.source.isSome)

theorem Insert.orderly_layout {s : Insert} (h : strict → s.isSound ∧ s.isComplete) :
    orderlyIn strict s.layout := by
  simp only [Insert.isSound, Insert.isComplete, Bool.and_eq_true] at h
  have hcontents : s.contents.all (orderlyIn strict) := by
    unfold Insert.contents
    split
    · have hrows : orderlyIn strict
          (Piece.joined ", " (s.rows.map (Row.layout s.columnNames))) :=
        (orderlyIn_joined ..).trans <| orderly_map fun row hrow =>
          Row.orderly_layout fun hs => List.all_eq_true.mp (h hs).1 row hrow
      simp only [List.all_cons, orderlyIn_cons, orderlyIn_parenthesized, orderly_identifierList,
        hrows]
      rfl
    · rename_i hempty
      cases hsource : s.source with
      | none =>
          obtain rfl := lax_of_failed (fun hs => (h hs).2.2) (by simp_all)
          rfl
      | some id =>
          cases s.columns.isEmpty <;> simp [Piece.isOrderly, orderly_identifierList]
  unfold Insert.layout
  split
  · rename_i hnone
    obtain rfl := lax_of_failed (fun hs => (h hs).2.1) (by rw [hnone]; rfl)
    rfl
  · simp [Piece.isOrderly, hcontents, orderly_returningLayout]

/-- Whether the condition of an UPDATE is checked. -/
def Update.isSound (s : Update) : Bool :=
  checkedClause s.rows

/-- Whether an UPDATE has a table and assigns something. -/
def Update.isComplete (s : Update) : Bool :=
  s.table.isSome && !s.assignments.isEmpty

theorem Update.orderly_layout {s : Update} (h : strict → s.isSound ∧ s.isComplete) :
    orderlyIn strict s.layout := by
  simp only [Update.isComplete, Bool.and_eq_true] at h
  have hassignments : (s.assignments.map assignmentLayout).all (orderlyIn strict) :=
    orderly_map fun assignment _ => by
      simp [assignmentLayout, Piece.isOrderly, assignment.2.orderly_layout]
  have hrows := ConditionClause.rows.orderly_layout fun hs => (h hs).1
  unfold Update.layout
  split
  · rename_i hnone
    obtain rfl := lax_of_failed (fun hs => (h hs).2.1) (by rw [hnone]; rfl)
    rfl
  · split
    · rename_i hempty
      obtain rfl := lax_of_failed (fun hs => (h hs).2.2) (by rw [hempty]; rfl)
      rfl
    · simp [assignmentsLayout, Piece.isOrderly, hassignments, hrows, orderly_returningLayout]

/-- Whether the condition of a DELETE is checked. -/
def Delete.isSound (s : Delete) : Bool :=
  checkedClause s.rows

theorem Delete.orderly_layout {s : Delete} (h : strict → s.isSound ∧ s.table.isSome) :
    orderlyIn strict s.layout := by
  have hrows := ConditionClause.rows.orderly_layout fun hs => (h hs).1
  unfold Delete.layout
  split
  · rename_i hnone
    obtain rfl := lax_of_failed (fun hs => (h hs).2) (by rw [hnone]; rfl)
    rfl
  · simp [Piece.isOrderly, hrows, orderly_returningLayout]

end Layouts

end SqlComposer
