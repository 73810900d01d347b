import SqlComposer.Proofs.Bindings
import SqlComposer.Proofs.References

/-!
# Other SELECTs in the same places

A tree whose references are redirected to other SELECTs has the same layout, with its references
redirected in the same way.
-/

namespace SqlComposer

section Redirection

variable (f : SelectId → SelectId)

/-! ## Pieces -/

mutual

def Piece.redirected : Piece → Piece
  | .subselect id => .subselect (f id)
  | .streamed number items => .streamed number (redirectedItems items)
  | .unnamed column behind => .unnamed column (redirectedIn behind)
  | .lateIdentifier name behind => .lateIdentifier name (redirectedIn behind)
  | piece => piece

def redirectedIn : List Piece → List Piece
  | [] => []
  | piece :: pieces => piece.redirected :: redirectedIn pieces

def redirectedItems : List (List Piece) → List (List Piece)
  | [] => []
  | item :: items => redirectedIn item :: redirectedItems items

end

theorem redirectedIn_eq (pieces : List Piece) :
    redirectedIn f pieces = pieces.map (Piece.redirected f) := by
  induction pieces with
  | nil => rfl
  | cons piece pieces ih => rw [redirectedIn, ih, List.map_cons]

theorem redirectedItems_eq (items : List (List Piece)) :
    redirectedItems f items = items.map (redirectedIn f) := by
  induction items with
  | nil => rfl
  | cons item items ih => rw [redirectedItems, ih, List.map_cons]

@[simp] theorem redirectedIn_append (front back : List Piece) :
    redirectedIn f (front ++ back) = redirectedIn f front ++ redirectedIn f back := by
  simp only [redirectedIn_eq, List.map_append]

@[simp] theorem redirectedIn_parenthesized (pieces : List Piece) :
    redirectedIn f (Piece.parenthesized pieces) = Piece.parenthesized (redirectedIn f pieces) := by
  rw [Piece.parenthesized, redirectedIn, redirectedIn_append]
  rfl

@[simp] theorem redirectedIn_joined (word : String) : (parts : List (List Piece)) →
    redirectedIn f (Piece.joined word parts) = Piece.joined word (parts.map (redirectedIn f))
  | [] => rfl
  | [part] => by simp [Piece.joined]
  | part :: next :: parts => by
      have hrest := redirectedIn_joined word (next :: parts)
      simp only [Piece.joined, List.map_cons] at hrest ⊢
      rw [List.intercalate_cons_cons, List.intercalate_cons_cons, redirectedIn_append,
        redirectedIn_append, hrest]
      rfl

@[simp] theorem redirectedIn_column (given : Value) (behind : List Piece) :
    redirectedIn f (Piece.column given behind) = Piece.column given (redirectedIn f behind) := by
  unfold Piece.column
  split <;> rfl

@[simp] theorem redirectedIn_lateColumn (given : Value) (behind : List Piece) :
    redirectedIn f (Piece.lateColumn given behind) =
      Piece.lateColumn given (redirectedIn f behind) := by
  unfold Piece.lateColumn
  split <;> rfl

theorem redirectedIn_interleave : (parts : List String) → (values : List (List Piece)) →
    redirectedIn f (interleave parts values) = interleave parts (values.map (redirectedIn f))
  | [], _ => rfl
  | [_], _ => rfl
  | _ :: _ :: _, [] => rfl
  | part :: next :: parts, value :: values => by
      have hrest := redirectedIn_interleave (next :: parts) values
      rw [List.map_cons, interleave, interleave, redirectedIn, redirectedIn_append, hrest]
      rfl

/-! ## Values -/

/-- A SELECT that is used for its rows. -/
def Value.redirectSelect : Value → Value
  | .statement (.select id) => .statement (.select (f id))
  | v => v

mutual

/-- A value where it stands for itself. What is bound as a value stays as it is. -/
def Value.redirect : Value → Value
  | .condition (.raw fragment) => .condition (.raw fragment.redirect)
  | v => v.redirectSelect f

def Value.redirectAll : List Value → List Value
  | [] => []
  | v :: vs => v.redirect :: Value.redirectAll vs

def Value.redirectKeys : List (Value × Value) → List (Value × Value)
  | [] => []
  | (key, value) :: entries => (key.redirect, value) :: Value.redirectKeys entries

def Value.redirectMembers : Value → Value
  | .list items serial => .list (Value.redirectAll items) serial
  | .tuple items serial => .tuple (Value.redirectAll items) serial
  | .set items serial => .set (Value.redirectAll items) serial
  | .map entries serial => .map (Value.redirectKeys entries) serial
  | .stream items number => .stream (Value.redirectAll items) number
  | v => v.redirectSelect f

def Raw.redirect : Raw → Raw
  | ⟨text, values, serial⟩ => ⟨text, values.redirectMembers, serial⟩

end

mutual

theorem Value.layout_redirect (v : Value) : (v.redirect f).layout = redirectedIn f v.layout := by
  cases v with
  | condition c =>
      cases c with
      | raw fragment => exact fragment.layout_redirect
      | _ => rfl
  | statement r =>
      cases r with
      | select id => rfl
      | _ => rfl
  | _ => rfl

theorem Value.layouts_redirect : (vs : List Value) →
    Value.layouts (Value.redirectAll f vs) = (Value.layouts vs).map (redirectedIn f)
  | [] => rfl
  | v :: vs => by
      rw [Value.redirectAll, Value.layouts, Value.layouts, v.layout_redirect,
        Value.layouts_redirect vs, List.map_cons]

theorem Value.keyLayouts_redirect : (entries : List (Value × Value)) →
    Value.keyLayouts (Value.redirectKeys f entries) =
      (Value.keyLayouts entries).map (redirectedIn f)
  | [] => rfl
  | (key, _) :: entries => by
      rw [Value.redirectKeys, Value.keyLayouts, Value.keyLayouts, key.layout_redirect,
        Value.keyLayouts_redirect entries, List.map_cons]

theorem Value.memberLayouts_redirect (v : Value) :
    (v.redirectMembers f).memberLayouts = v.memberLayouts.map (redirectedIn f) := by
  have hplain (members : List Value) :
      (members.map fun v => [Piece.value v]) =
        (members.map fun v => [Piece.value v]).map (redirectedIn f) := by
    rw [List.map_map]
    rfl
  cases v with
  | list items _ | tuple items _ | set items _ | stream items _ =>
      exact Value.layouts_redirect items
  | map entries _ => exact Value.keyLayouts_redirect entries
  | statement r => cases r <;> rfl
  | _ => exact hplain _

theorem Raw.layout_redirect : (fragment : Raw) →
    (fragment.redirect f).layout = redirectedIn f fragment.layout
  | ⟨text, values, serial⟩ => by
      rw [Raw.redirect, Raw.layout, Raw.layout, redirectedIn_interleave,
        values.memberLayouts_redirect]
      rfl

end

/-! ## Conditions -/

mutual

/-- A value in the place of a condition. -/
def Value.redirectOperand : Value → Value
  | .condition c => .condition c.redirect
  | v => v

def Value.redirectOperandList : List Value → List Value
  | [] => []
  | v :: vs => v.redirectOperand :: Value.redirectOperandList vs

def Value.redirectOperandEntries : List (Value × Value) → List (Value × Value)
  | [] => []
  | (key, value) :: entries =>
    (key.redirectOperand, value.redirectOperand) :: Value.redirectOperandEntries entries

def Value.redirectOperands : Value → Value
  | .list items serial => .list (Value.redirectOperandList items) serial
  | .tuple items serial => .tuple (Value.redirectOperandList items) serial
  | .set items serial => .set (Value.redirectOperandList items) serial
  | .map entries serial => .map (Value.redirectOperandEntries entries) serial
  | v => v

def Condition.redirect : Condition → Condition
  | .comparison op column value serial => .comparison op column (value.redirect f) serial
  | .isNull column negated serial => .isNull column negated serial
  | .between column low high serial =>
    .between column (low.redirect f) (high.redirect f) serial
  | .pattern column value ignoresCase serial =>
    .pattern column (value.redirect f) ignoresCase serial
  | .membership column values serial => .membership column (values.redirectMembers f) serial
  | .logical op operands serial => .logical op operands.redirectOperands serial
  | .negation inner serial => .negation inner.redirectOperand serial
  | .existence subselect negated serial =>
    .existence (subselect.redirectSelect f) negated serial
  | .raw fragment => .raw (fragment.redirect f)
  | .unspecified serial => .unspecified serial

end

mutual

theorem Value.unwrapped_redirect (v : Value) :
    (v.redirectOperand f).unwrapped = v.unwrapped.redirectOperand f := by
  cases v with
  | condition c => exact c.unwrapped_redirect
  | _ => rfl

theorem Condition.unwrapped_redirect (c : Condition) :
    (c.redirect f).unwrapped = c.unwrapped.redirectOperand f := by
  cases c with
  | logical op operands serial =>
      rw [Condition.redirect, Condition.unwrapped, Condition.unwrapped,
        operands.onlyUnwrapped_redirect]
      cases operands.onlyUnwrapped? <;> rfl
  | _ => rfl

theorem Value.onlyUnwrapped_redirect (v : Value) :
    (v.redirectOperands f).onlyUnwrapped? = v.onlyUnwrapped?.map (Value.redirectOperand f) := by
  cases v with
  | list items _ | tuple items _ =>
      match items with
      | [] => rfl
      | [only] => exact congrArg some only.unwrapped_redirect
      | _ :: _ :: _ => rfl
  | map entries _ =>
      match entries with
      | [] => rfl
      | [(_, only)] => exact congrArg some only.unwrapped_redirect
      | _ :: _ :: _ => rfl
  | _ => rfl

end

theorem Value.needsParentheses_redirect (op : Connective) (v : Value) :
    (v.redirectOperand f).needsParentheses op = v.needsParentheses op := by
  unfold Value.needsParentheses
  rw [v.unwrapped_redirect]
  cases v.unwrapped with
  | condition c => cases c <;> rfl
  | _ => rfl

theorem Value.isLogical_redirect (v : Value) :
    (v.redirectOperand f).isLogical = v.isLogical := by
  unfold Value.isLogical
  rw [v.unwrapped_redirect]
  cases v.unwrapped with
  | condition c => cases c <;> rfl
  | _ => rfl

theorem keys_redirectOperandEntries (entries : List (Value × Value)) :
    (Value.redirectOperandEntries f entries).map Prod.fst =
      Value.redirectOperandList f (entries.map Prod.fst) := by
  induction entries with
  | nil => rfl
  | cons entry entries ih =>
      rw [Value.redirectOperandEntries, List.map_cons, List.map_cons, ih]
      rfl

theorem asOperand_redirect (op : Connective) (v : Value) (pieces : List Piece) :
    (v.redirectOperand f).asOperand op (redirectedIn f pieces) =
      redirectedIn f (v.asOperand op pieces) := by
  unfold Value.asOperand
  rw [v.needsParentheses_redirect]
  split
  · rw [redirectedIn_parenthesized]
  · rfl

theorem asOperands_redirect (op : Connective) : (operands : List Value) →
    (parts : List (List Piece)) →
      List.zipWith (Value.asOperand op) (Value.redirectOperandList f operands)
          (parts.map (redirectedIn f)) =
        (List.zipWith (Value.asOperand op) operands parts).map (redirectedIn f)
  | [], _ => rfl
  | _ :: _, [] => rfl
  | v :: operands, part :: parts => by
      have hrest := asOperands_redirect op operands parts
      rw [Value.redirectOperandList, List.map_cons, List.zipWith_cons_cons,
        List.zipWith_cons_cons, asOperand_redirect, hrest, List.map_cons]

theorem joined_redirect (op : Connective) (operands : List Value) (parts : List (List Piece)) :
    op.joined (Value.redirectOperandList f operands) (parts.map (redirectedIn f)) =
      redirectedIn f (op.joined operands parts) := by
  have hmany : Piece.joined (" " ++ op.text ++ " ")
      (List.zipWith (Value.asOperand op) (Value.redirectOperandList f operands)
        (parts.map (redirectedIn f))) =
      redirectedIn f (Piece.joined (" " ++ op.text ++ " ")
        (List.zipWith (Value.asOperand op) operands parts)) := by
    rw [asOperands_redirect, redirectedIn_joined]
  match operands, parts with
  | [_], [only] => rfl
  | [], _ => exact hmany
  | [_], [] => exact hmany
  | [_], _ :: _ :: _ => exact hmany
  | _ :: _ :: _, _ => exact hmany

theorem negated_redirect (v : Value) (pieces : List Piece) :
    (v.redirectOperand f).negated (redirectedIn f pieces) = redirectedIn f (v.negated pieces) := by
  unfold Value.negated
  rw [v.isLogical_redirect]
  split
  · rw [redirectedIn, redirectedIn_parenthesized]
    rfl
  · rfl

theorem isTruthy_redirectMembers (v : Value) : (v.redirectMembers f).isTruthy = v.isTruthy := by
  cases v with
  | list items _ | tuple items _ | set items _ => cases items <;> rfl
  | map entries _ => cases entries <;> rfl
  | statement r => cases r <;> rfl
  | _ => rfl

theorem membership_redirect (column values : Value) (serial : Serial) :
    (Condition.membership column (values.redirectMembers f) serial).layout =
      redirectedIn f (Condition.membership column values serial).layout := by
  have hlisted (hlayout : ∀ v, v = values ∨ v = values.redirectMembers f →
      (Condition.membership column v serial).layout =
        if v.isTruthy then
          Piece.column column
            (.word " IN " :: Piece.parenthesized (Piece.joined ", " v.memberLayouts))
        else Piece.lateColumn column [.refused (.noMembers column)]) :
      (Condition.membership column (values.redirectMembers f) serial).layout =
        redirectedIn f (Condition.membership column values serial).layout := by
    rw [hlayout _ (.inr rfl), hlayout _ (.inl rfl), isTruthy_redirectMembers,
      values.memberLayouts_redirect]
    split
    · rw [redirectedIn_column, redirectedIn, redirectedIn_parenthesized, redirectedIn_joined]
      rfl
    · rw [redirectedIn_lateColumn]
      rfl
  cases values with
  | statement r =>
      cases r with
      | select id =>
          refine Eq.symm ((redirectedIn_column ..).trans ?_)
          rw [redirectedIn, redirectedIn_parenthesized]
          rfl
      | _ => exact hlisted (by rintro _ (rfl | rfl) <;> rfl)
  | stream items number =>
      refine Eq.symm ((redirectedIn_column ..).trans ?_)
      rw [redirectedIn, redirectedIn_parenthesized, redirectedIn, Piece.redirected,
        redirectedItems_eq, ← Value.layouts_redirect]
      rfl
  | _ => exact hlisted (by rintro _ (rfl | rfl) <;> rfl)

mutual

theorem Value.conditionLayout_redirect (v : Value) :
    (v.redirectOperand f).conditionLayout = redirectedIn f v.conditionLayout := by
  cases v with
  | condition c => exact c.layout_redirect
  | _ => rfl

theorem Value.conditionLayouts_redirect : (vs : List Value) →
    Value.conditionLayouts (Value.redirectOperandList f vs) =
      (Value.conditionLayouts vs).map (redirectedIn f)
  | [] => rfl
  | v :: vs => by
      rw [Value.redirectOperandList, Value.conditionLayouts, Value.conditionLayouts,
        v.conditionLayout_redirect, Value.conditionLayouts_redirect vs, List.map_cons]

theorem Value.keyConditionLayouts_redirect : (entries : List (Value × Value)) →
    Value.keyConditionLayouts (Value.redirectOperandEntries f entries) =
      (Value.keyConditionLayouts entries).map (redirectedIn f)
  | [] => rfl
  | (key, _) :: entries => by
      rw [Value.redirectOperandEntries, Value.keyConditionLayouts, Value.keyConditionLayouts,
        key.conditionLayout_redirect, Value.keyConditionLayouts_redirect entries, List.map_cons]

theorem Value.operandsLayout_redirect (op : Connective) (v : Value) :
    (v.redirectOperands f).operandsLayout op = redirectedIn f (v.operandsLayout op) := by
  cases v with
  | list items _ | tuple items _ | set items _ =>
      have hitems := Value.conditionLayouts_redirect items
      rw [Value.redirectOperands, Value.operandsLayout, Value.operandsLayout, hitems,
        joined_redirect]
  | map entries _ =>
      match entries with
      | [] => rfl
      | [(_, only)] => exact only.conditionLayout_redirect
      | first :: second :: rest =>
          have hkeys := Value.keyConditionLayouts_redirect (first :: second :: rest)
          have hjoined := joined_redirect f op ((first :: second :: rest).map Prod.fst)
            (Value.keyConditionLayouts (first :: second :: rest))
          rw [← keys_redirectOperandEntries, ← hkeys] at hjoined
          simpa only [Value.redirectOperands, Value.redirectOperandEntries,
            Value.operandsLayout] using hjoined
  | _ => rfl

theorem Condition.layout_redirect : (c : Condition) →
    (c.redirect f).layout = redirectedIn f c.layout
  | .comparison op column value serial => by
      have hop : op.operator.redirected f = op.operator := by
        unfold Value.operator
        split <;> rfl
      rw [Condition.redirect, Condition.layout, Condition.layout, redirectedIn_column,
        redirectedIn, redirectedIn, hop, value.layout_redirect]
      rfl
  | .isNull column negated serial => (redirectedIn_column f column [.word _]).symm
  | .between column low high serial => by
      rw [Condition.redirect, Condition.layout, Condition.layout, redirectedIn_lateColumn,
        redirectedIn, redirectedIn_append, redirectedIn, low.layout_redirect,
        high.layout_redirect]
      rfl
  | .pattern column value ignoresCase serial => by
      rw [Condition.redirect, Condition.layout, Condition.layout, redirectedIn_column,
        redirectedIn, value.layout_redirect]
      rfl
  | .membership column values serial => membership_redirect f column values serial
  | .logical op operands serial => operands.operandsLayout_redirect op
  | .negation inner serial => by
      rw [Condition.redirect, Condition.layout, Condition.layout, inner.conditionLayout_redirect,
        negated_redirect]
  | .existence subselect negated serial => by
      cases subselect with
      | statement r => cases r <;> rfl
      | _ => rfl
  | .raw fragment => fragment.layout_redirect f
  | .unspecified serial => rfl

end

/-! ## Clauses -/

def Column.redirect : Column → Column
  | .named name => .named name
  | .raw fragment => .raw (fragment.redirect f)
  | .subselect id => .subselect (f id)

def Source.redirect : Source → Source
  | .table name => .table name
  | .subselect id => .subselect (f id)

def JoinTerms.redirect : JoinTerms → JoinTerms
  | .pairs columns => .pairs columns
  | .condition c => .condition (c.redirect f)

def Join.redirect (j : Join) : Join :=
  { j with terms := j.terms.redirect f }

def Row.redirect (row : Row) : Row :=
  row.map fun entry => (entry.1, entry.2.redirect f)

theorem Column.layout_redirect (column : Column) :
    (column.redirect f).layout = redirectedIn f column.layout := by
  cases column with
  | raw fragment => exact fragment.layout_redirect f
  | _ => rfl

theorem Column.orderLayout_redirect (column : Column) :
    (column.redirect f).orderLayout = redirectedIn f column.orderLayout := by
  cases column with
  | raw fragment => exact fragment.layout_redirect f
  | _ => rfl

theorem map_redirect {α : Type} {redirect : α → α} {layout : α → List Piece}
    (h : ∀ a, layout (redirect a) = redirectedIn f (layout a)) (as : List α) :
    (as.map redirect).map layout = (as.map layout).map (redirectedIn f) := by
  rw [List.map_map, List.map_map]
  exact List.map_congr_left fun a _ => h a

theorem optional_redirect {α : Type} {redirect : α → α} {layout layout' : α → List Piece}
    (h : ∀ a, layout' (redirect a) = redirectedIn f (layout a)) (clause : Option α) :
    optional (clause.map redirect) layout' = (optional clause layout).map (redirectedIn f) := by
  cases clause with
  | none => rfl
  | some part => exact congrArg ([·]) (h part)

theorem Column.listLayout_redirect (columns : List Column) :
    Column.listLayout (columns.map (Column.redirect f)) =
      redirectedIn f (Column.listLayout columns) := by
  rw [Column.listLayout, Column.listLayout, redirectedIn_joined,
    map_redirect f (Column.layout_redirect f)]

theorem orAll_redirect (columns : List Column) :
    (if (columns.map (Column.redirect f)).isEmpty then [Piece.word "*"]
      else Column.listLayout (columns.map (Column.redirect f))) =
        redirectedIn f (if columns.isEmpty then [.word "*"] else Column.listLayout columns) := by
  cases columns with
  | nil => rfl
  | cons column columns => exact Column.listLayout_redirect f (column :: columns)

theorem expressions_redirect (columns : List Column) :
    expressions (columns.map (Column.redirect f)) =
      (expressions columns).map (List.map (Column.redirect f)) := by
  cases columns <;> rfl

theorem Source.layout_redirect (sourceAlias : Option Name) (source : Source) :
    (source.redirect f).layout sourceAlias = redirectedIn f (source.layout sourceAlias) := by
  cases source with
  | table name => rfl
  | subselect id => cases sourceAlias <;> rfl

theorem JoinTerms.layout_redirect (terms : JoinTerms) :
    (terms.redirect f).layout = redirectedIn f terms.layout := by
  cases terms with
  | pairs columns =>
      rw [JoinTerms.redirect, JoinTerms.layout, redirectedIn_joined, List.map_map]
      rfl
  | condition c => exact c.layout_redirect f

theorem Join.layout_redirect (j : Join) :
    (j.redirect f).layout = redirectedIn f j.layout := by
  rw [Join.layout, Join.layout, Join.redirect, JoinTerms.layout_redirect]
  rfl

theorem ConditionClause.layout_redirect (clause : ConditionClause)
    (condition : Option Condition) :
    clause.layout (condition.map (Condition.redirect f)) =
      (clause.layout condition).map (redirectedIn f) := by
  refine optional_redirect f (fun c => ?_) condition
  rw [c.layout_redirect]
  rfl

theorem returningLayout_redirect (returning : Option (List Column)) :
    returningLayout (returning.map (List.map (Column.redirect f))) =
      (returningLayout returning).map (redirectedIn f) := by
  refine optional_redirect f (fun columns => ?_) returning
  rw [orAll_redirect]
  rfl

theorem Row.columns_redirect (row : Row) : (row.redirect f).columns = row.columns := by
  rw [Row.columns, Row.redirect, List.map_map]
  rfl

theorem Row.value?_redirect (row : Row) (column : Name) :
    (row.redirect f).value? column = (row.value? column).map (Value.redirect f) := by
  induction row with
  | nil => rfl
  | cons entry row ih =>
      unfold Row.value? Row.redirect at ih ⊢
      rw [List.map_cons, List.find?_cons, List.find?_cons]
      cases decide (entry.1.text = column.text) with
      | true => rfl
      | false => exact ih

theorem Row.layout_redirect (columns : List Name) (row : Row) :
    (row.redirect f).layout columns = redirectedIn f (row.layout columns) := by
  have hcell (column : Name) :
      (row.redirect f).cellLayout column = redirectedIn f (row.cellLayout column) := by
    unfold Row.cellLayout
    rw [row.value?_redirect]
    cases row.value? column with
    | none => rfl
    | some value => exact value.layout_redirect f
  rw [Row.layout, Row.layout, redirectedIn_parenthesized, redirectedIn_joined, List.map_map,
    funext hcell]
  rfl

theorem identifierList_redirect (names : List Name) :
    redirectedIn f (identifierList names) = identifierList names := by
  rw [identifierList, redirectedIn_joined, List.map_map]
  rfl

/-! ## Statements -/

def Select.redirect (s : Select) : Select :=
  { s with
    columns := s.columns.map (Column.redirect f)
    source := s.source.map (Source.redirect f)
    joins := s.joins.map (Join.redirect f)
    rows := s.rows.map (Condition.redirect f)
    grouping := s.grouping.map (Column.redirect f)
    groups := s.groups.map (Condition.redirect f)
    order := s.order.map (Column.redirect f) }

def Insert.redirect (s : Insert) : Insert :=
  { s with
    rows := s.rows.map (Row.redirect f)
    source := s.source.map f
    returning := s.returning.map (List.map (Column.redirect f)) }

def Update.redirect (s : Update) : Update :=
  { s with
    assignments := s.assignments.redirect f
    rows := s.rows.map (Condition.redirect f)
    returning := s.returning.map (List.map (Column.redirect f)) }

def Delete.redirect (s : Delete) : Delete :=
  { s with
    rows := s.rows.map (Condition.redirect f)
    returning := s.returning.map (List.map (Column.redirect f)) }

theorem Select.layout_redirect (s : Select) : (s.redirect f).layout = redirectedIn f s.layout := by
  have hcolumns : (if (s.redirect f).columns.isEmpty then [Piece.word "*"]
      else Column.listLayout (s.redirect f).columns) =
        redirectedIn f (if s.columns.isEmpty then [.word "*"]
          else Column.listLayout s.columns) :=
    orAll_redirect f s.columns
  have hsource : optional (s.source.map (Source.redirect f))
      (fun source => .word "FROM " :: source.layout s.sourceAlias) =
        (optional s.source fun source => .word "FROM " :: source.layout s.sourceAlias).map
          (redirectedIn f) := by
    refine optional_redirect f (fun source => ?_) s.source
    rw [source.layout_redirect]
    rfl
  have hjoins := map_redirect f (Join.layout_redirect f) s.joins
  have hrows := ConditionClause.rows.layout_redirect f s.rows
  have hgroups := ConditionClause.groups.layout_redirect f s.groups
  have hgrouping : optional (expressions (s.grouping.map (Column.redirect f)))
      (fun columns => .word "GROUP BY " :: Column.listLayout columns) =
        (optional (expressions s.grouping) fun columns =>
          .word "GROUP BY " :: Column.listLayout columns).map (redirectedIn f) := by
    rw [expressions_redirect]
    refine optional_redirect f (fun columns => ?_) _
    rw [Column.listLayout_redirect]
    rfl
  have horder : optional (expressions (s.order.map (Column.redirect f)))
      (fun columns => .word "ORDER BY " :: Piece.joined ", " (columns.map Column.orderLayout)) =
        (optional (expressions s.order) fun columns =>
          .word "ORDER BY " :: Piece.joined ", " (columns.map Column.orderLayout)).map
            (redirectedIn f) := by
    rw [expressions_redirect]
    refine optional_redirect f (fun columns => ?_) _
    rw [map_redirect f (Column.orderLayout_redirect f), ← redirectedIn_joined]
    rfl
  have hcount (word : String) (count : Option Nat) :
      (optional count fun n => [.word word, .count n]) =
        (optional count fun n => [.word word, .count n]).map (redirectedIn f) := by
    cases count <;> rfl
  have hswitch (switch : Bool) (word : String) :
      (if switch then [[Piece.word word]] else []) =
        (if switch then [[Piece.word word]] else []).map (redirectedIn f) := by
    cases switch <;> rfl
  rw [Select.layout, Select.layout, redirectedIn_joined, Select.clauses, Select.clauses, hcolumns]
  simp only [Select.redirect, List.map_append, hsource, hjoins, hrows, hgroups, hgrouping, horder,
    ← hcount, ← hswitch]
  rfl

theorem Insert.columnNames_redirect (s : Insert) :
    (s.redirect f).columnNames = s.columnNames := by
  unfold Insert.columnNames Insert.redirect
  cases s.rows with
  | nil => rfl
  | cons row rows => simp only [List.map_cons, Row.columns_redirect]

theorem Insert.contents_redirect (s : Insert) :
    (s.redirect f).contents = s.contents.map (redirectedIn f) := by
  unfold Insert.contents
  rw [s.columnNames_redirect]
  simp only [Insert.redirect, List.isEmpty_map]
  split
  · rw [map_redirect f (Row.layout_redirect f s.columnNames), ← redirectedIn_joined]
    simp only [List.map_cons, List.map_nil, redirectedIn_parenthesized, identifierList_redirect]
    rfl
  · cases s.source with
    | none => rfl
    | some id =>
        have hnames : (if s.columns.isEmpty then []
            else [Piece.parenthesized (identifierList s.columns)]).map (redirectedIn f) =
              if s.columns.isEmpty then []
              else [Piece.parenthesized (identifierList s.columns)] := by
          split
          · rfl
          · rw [List.map_cons, redirectedIn_parenthesized, identifierList_redirect]
            rfl
        refine Eq.symm ((List.map_append ..).trans ?_)
        rw [hnames]
        rfl

theorem Insert.layout_redirect (s : Insert) :
    (s.redirect f).layout = redirectedIn f s.layout := by
  unfold Insert.layout
  rw [s.contents_redirect]
  simp only [Insert.redirect, returningLayout_redirect]
  cases s.table with
  | none => rfl
  | some table =>
      simp only [redirectedIn_joined, List.map_append]
      rfl

theorem Update.layout_redirect (s : Update) :
    (s.redirect f).layout = redirectedIn f s.layout := by
  have hassignment (assignment : Name × Value) :
      assignmentLayout (assignment.1, assignment.2.redirect f) =
        redirectedIn f (assignmentLayout assignment) := by
    rw [assignmentLayout, assignmentLayout, Value.layout_redirect]
    rfl
  have hassignments (table : Name) : assignmentsLayout table (s.assignments.redirect f) =
      redirectedIn f (assignmentsLayout table s.assignments) := by
    rw [assignmentsLayout, Row.redirect, map_redirect f hassignment, ← redirectedIn_joined]
    rfl
  unfold Update.layout
  simp only [Update.redirect, returningLayout_redirect, ConditionClause.layout_redirect,
    hassignments]
  cases s.table with
  | none => rfl
  | some table =>
      rw [Row.redirect, List.isEmpty_map]
      simp only
      split
      · rfl
      · simp only [redirectedIn_joined, List.map_append]
        rfl

theorem Delete.layout_redirect (s : Delete) :
    (s.redirect f).layout = redirectedIn f s.layout := by
  unfold Delete.layout
  simp only [Delete.redirect, returningLayout_redirect, ConditionClause.layout_redirect]
  cases s.table with
  | none => rfl
  | some table =>
      simp only [redirectedIn_joined, List.map_append]
      rfl

end Redirection

/-! ## Unfolding -/

section Unfolding

variable {f : SelectId → SelectId} {sub : SelectId → List Piece}

mutual

theorem Piece.unfolded_redirected : (piece : Piece) →
    (piece.redirected f).unfolded sub = piece.unfolded fun id => sub (f id)
  | .streamed number items => by
      rw [Piece.redirected, Piece.unfolded, Piece.unfolded, unfoldedItems_redirected items]
  | .unnamed column behind => by
      rw [Piece.redirected, Piece.unfolded, Piece.unfolded,
        SqlComposer.unfolded_redirected behind]
  | .lateIdentifier name behind => by
      rw [Piece.redirected, Piece.unfolded, Piece.unfolded,
        SqlComposer.unfolded_redirected behind]
  | .subselect _ | .word _ | .copied _ | .identifier _ | .reference _ | .ordering _ | .quoted _
  | .value _ | .count _ | .display _ | .refused _ => rfl

theorem unfolded_redirected : (pieces : List Piece) →
    unfolded sub (redirectedIn f pieces) = unfolded (fun id => sub (f id)) pieces
  | [] => rfl
  | piece :: pieces => by
      rw [redirectedIn, unfolded, unfolded, piece.unfolded_redirected,
        unfolded_redirected pieces]

theorem unfoldedItems_redirected : (items : List (List Piece)) →
    unfoldedItems sub (redirectedItems f items) = unfoldedItems (fun id => sub (f id)) items
  | [] => rfl
  | item :: items => by
      rw [redirectedItems, unfoldedItems, unfoldedItems, unfolded_redirected item,
        unfoldedItems_redirected items]

end

mutual

theorem Piece.references_redirected : (piece : Piece) →
    (piece.redirected f).references = piece.references.map f
  | .streamed _ items => referencesInItems_redirected items
  | .unnamed _ behind => referencesIn_redirected behind
  | .lateIdentifier _ behind => referencesIn_redirected behind
  | .subselect _ | .word _ | .copied _ | .identifier _ | .reference _ | .ordering _ | .quoted _
  | .value _ | .count _ | .display _ | .refused _ => rfl

theorem referencesIn_redirected : (pieces : List Piece) →
    referencesIn (redirectedIn f pieces) = (referencesIn pieces).map f
  | [] => rfl
  | piece :: pieces => by
      rw [redirectedIn, referencesIn, referencesIn, piece.references_redirected,
        referencesIn_redirected pieces, List.map_append]

theorem referencesInItems_redirected : (items : List (List Piece)) →
    referencesInItems (redirectedItems f items) = (referencesInItems items).map f
  | [] => rfl
  | item :: items => by
      rw [redirectedItems, referencesInItems, referencesInItems, referencesIn_redirected item,
        referencesInItems_redirected items, List.map_append]

end

end Unfolding

end SqlComposer
