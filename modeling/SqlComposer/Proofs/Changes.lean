import SqlComposer.Proofs.Matching

/-!
# Trees that differ only in bound values

Two trees match if values that one of them binds are changed in the other one, and nothing else is.
A changed value is neither a raw fragment nor a SELECT, before and after. The layouts of trees that
match are matching too.
-/

namespace SqlComposer

def Value.members (v : Value) : List Value :=
  v.members?.getD []

/-- Whether a value is neither a raw fragment nor a SELECT. -/
def Value.isData (v : Value) : Bool :=
  v.raw?.isNone && v.select?.isNone

/-- Whether the members of a value are at hand, where a column is looked up in it. -/
def Value.isListed : Value → Bool
  | .statement (.select _) => false
  | .stream _ _ => false
  | _ => true

section Matches

variable (changed : Value → Value → Prop)

/-- The same value, or the one that it is changed to. -/
def OrChanged (v v' : Value) : Prop :=
  v = v' ∨ changed v v'

mutual

inductive Value.Matches : Value → Value → Prop
  | same (v : Value) : Value.Matches v v
  | data {v v' : Value} : v.isData → v'.isData → changed v v' → Value.Matches v v'
  | raw {fragment fragment' : Raw} : Raw.Matches fragment fragment' →
      Value.Matches (.condition (.raw fragment)) (.condition (.raw fragment'))

inductive Value.AllMatch : List Value → List Value → Prop
  | nil : Value.AllMatch [] []
  | cons {v v' : Value} {vs vs' : List Value} : Value.Matches v v' → Value.AllMatch vs vs' →
      Value.AllMatch (v :: vs) (v' :: vs')

inductive Raw.Matches : Raw → Raw → Prop
  | mk (text : Name) {values values' : Value} (serial serial' : Serial) :
      Value.AllMatch values.members values'.members →
      Raw.Matches ⟨text, values, serial⟩ ⟨text, values', serial'⟩

end

mutual

inductive Condition.Matches : Condition → Condition → Prop
  | same (c : Condition) : Condition.Matches c c
  | comparison (op column : Value) {v v' : Value} (serial serial' : Serial) :
      v.Matches changed v' →
      Condition.Matches (.comparison op column v serial) (.comparison op column v' serial')
  | between (column : Value) {low low' high high' : Value} (serial serial' : Serial) :
      low.Matches changed low' → high.Matches changed high' →
      Condition.Matches (.between column low high serial) (.between column low' high' serial')
  | pattern (column ignoresCase : Value) {v v' : Value} (serial serial' : Serial) :
      v.Matches changed v' →
      Condition.Matches (.pattern column v ignoresCase serial)
        (.pattern column v' ignoresCase serial')
  | membership (column : Value) {values values' : Value} (serial serial' : Serial) :
      values.isListed → values'.isListed → values.isTruthy = values'.isTruthy →
      Value.AllMatch changed values.members values'.members →
      Condition.Matches (.membership column values serial) (.membership column values' serial')
  | stream (column : Value) (number : Nat) {items items' : List Value} (serial serial' : Serial) :
      Value.AllMatch changed items items' →
      Condition.Matches (.membership column (.stream items number) serial)
        (.membership column (.stream items' number) serial')
  | logical (op : Connective) {operands operands' : Value} (serial serial' : Serial) :
      Value.OperandsMatch operands operands' →
      Condition.Matches (.logical op operands serial) (.logical op operands' serial')
  | negation {inner inner' : Value} (serial serial' : Serial) :
      Value.OperandMatches inner inner' →
      Condition.Matches (.negation inner serial) (.negation inner' serial')
  | raw {fragment fragment' : Raw} : fragment.Matches changed fragment' →
      Condition.Matches (.raw fragment) (.raw fragment')

/-- Values in the place of conditions. -/
inductive Value.OperandMatches : Value → Value → Prop
  | same (v : Value) : Value.OperandMatches v v
  | condition {c c' : Condition} : Condition.Matches c c' →
      Value.OperandMatches (.condition c) (.condition c')

inductive Value.AllOperandsMatch : List Value → List Value → Prop
  | nil : Value.AllOperandsMatch [] []
  | cons {v v' : Value} {vs vs' : List Value} : Value.OperandMatches v v' →
      Value.AllOperandsMatch vs vs' → Value.AllOperandsMatch (v :: vs) (v' :: vs')

/-- The operands of a connective. -/
inductive Value.OperandsMatch : Value → Value → Prop
  | same (v : Value) : Value.OperandsMatch v v
  | list {items items' : List Value} (serial serial' : Serial) :
      Value.AllOperandsMatch items items' →
      Value.OperandsMatch (.list items serial) (.list items' serial')
  | tuple {items items' : List Value} (serial serial' : Serial) :
      Value.AllOperandsMatch items items' →
      Value.OperandsMatch (.tuple items serial) (.tuple items' serial')
  | set {items items' : List Value} (serial serial' : Serial) :
      Value.AllOperandsMatch items items' →
      Value.OperandsMatch (.set items serial) (.set items' serial')

end

/-! ## Clauses and statements -/

inductive Column.Matches : Column → Column → Prop
  | same (column : Column) : Column.Matches column column
  | raw {fragment fragment' : Raw} : fragment.Matches changed fragment' →
      Column.Matches (.raw fragment) (.raw fragment')

inductive JoinTerms.Matches : JoinTerms → JoinTerms → Prop
  | same (terms : JoinTerms) : JoinTerms.Matches terms terms
  | condition {c c' : Condition} : c.Matches changed c' →
      JoinTerms.Matches (.condition c) (.condition c')

structure Join.Matches (j j' : Join) : Prop where
  kind : j.kind = j'.kind
  table : j.table = j'.table
  terms : j.terms.Matches changed j'.terms

/-- Rows with the same columns in the same order. -/
def Row.Matches (row row' : Row) : Prop :=
  List.Forall₂ (fun cell cell' => cell.1 = cell'.1 ∧ cell.2.Matches changed cell'.2) row row'

/-- Counts, which may be changed only if they are bound. -/
def CountMatches (bound : Bool) (n n' : Nat) : Prop :=
  n = n' ∨ bound ∧ changed (.int n 0) (.int n' 0)

structure Select.Matches (bound : Bool) (s s' : Select) : Prop where
  dialect : s.dialect = s'.dialect
  columns : List.Forall₂ (Column.Matches changed) s.columns s'.columns
  distinct : s.distinct = s'.distinct
  source : s.source = s'.source
  sourceAlias : s.sourceAlias = s'.sourceAlias
  joins : List.Forall₂ (Join.Matches changed) s.joins s'.joins
  rows : Option.Rel (Condition.Matches changed) s.rows s'.rows
  grouping : List.Forall₂ (Column.Matches changed) s.grouping s'.grouping
  groups : Option.Rel (Condition.Matches changed) s.groups s'.groups
  order : List.Forall₂ (Column.Matches changed) s.order s'.order
  limit : Option.Rel (CountMatches changed bound) s.limit s'.limit
  offset : Option.Rel (CountMatches changed bound) s.offset s'.offset
  forUpdate : s.forUpdate = s'.forUpdate

structure Insert.Matches (s s' : Insert) : Prop where
  dialect : s.dialect = s'.dialect
  table : s.table = s'.table
  columns : s.columns = s'.columns
  rows : List.Forall₂ (Row.Matches changed) s.rows s'.rows
  source : s.source = s'.source
  returning : Option.Rel (List.Forall₂ (Column.Matches changed)) s.returning s'.returning

structure Update.Matches (s s' : Update) : Prop where
  dialect : s.dialect = s'.dialect
  table : s.table = s'.table
  assignments : Row.Matches changed s.assignments s'.assignments
  rows : Option.Rel (Condition.Matches changed) s.rows s'.rows
  returning : Option.Rel (List.Forall₂ (Column.Matches changed)) s.returning s'.returning

structure Delete.Matches (s s' : Delete) : Prop where
  dialect : s.dialect = s'.dialect
  table : s.table = s'.table
  rows : Option.Rel (Condition.Matches changed) s.rows s'.rows
  returning : Option.Rel (List.Forall₂ (Column.Matches changed)) s.returning s'.returning

/-- Stores with the same statements, but for changed values. -/
structure Store.Matches (bound : Bool) (st st' : Store) : Prop where
  bares : st.bares = st'.bares
  selects : List.Forall₂ (Select.Matches changed bound) st.selects st'.selects
  inserts : List.Forall₂ (Insert.Matches changed) st.inserts st'.inserts
  updates : List.Forall₂ (Update.Matches changed) st.updates st'.updates
  deletes : List.Forall₂ (Delete.Matches changed) st.deletes st'.deletes

end Matches

/-! ## Layouts of values -/

/-- Layouts that are the same but for changed values. -/
abbrev LayoutMatches (changed : Value → Value → Prop) (bound : Bool) :
    List Piece → List Piece → Prop :=
  List.Forall₂ (Piece.Matches (OrChanged changed) bound)

section Layouts

variable {changed : Value → Value → Prop} {bound : Bool}

theorem OrChanged.refl (v : Value) : OrChanged changed v v :=
  .inl rfl

theorem pieces_same (pieces : List Piece) : LayoutMatches changed bound pieces pieces :=
  pieces_refl OrChanged.refl pieces

theorem items_same (items : List (List Piece)) :
    List.Forall₂ (LayoutMatches changed bound) items items :=
  items_refl OrChanged.refl items

theorem Value.layouts_eq (vs : List Value) : Value.layouts vs = vs.map Value.layout := by
  induction vs with
  | nil => rfl
  | cons v vs ih => simp only [Value.layouts, ih, List.map_cons]

theorem Value.keyLayouts_eq (entries : List (Value × Value)) :
    Value.keyLayouts entries = (entries.map Prod.fst).map Value.layout := by
  induction entries with
  | nil => rfl
  | cons entry entries ih => simp only [Value.keyLayouts, ih, List.map_cons]

theorem Value.memberLayouts_eq (v : Value) : v.memberLayouts = v.members.map Value.layout := by
  cases v with
  | list items _ | tuple items _ | set items _ | stream items _ => exact Value.layouts_eq items
  | map entries _ => exact Value.keyLayouts_eq entries
  | text s _ | keyword word =>
      simp [Value.memberLayouts, Value.members, Value.members?, Value.ofCharacters, Value.ofText,
        Value.layout]
  | bytes octets _ =>
      simp [Value.memberLayouts, Value.members, Value.members?, Value.ofOctets, Value.layout]
  | _ => rfl

theorem Value.layout_of_isData {v : Value} (h : v.isData) : v.layout = [.value v] := by
  cases v with
  | condition c =>
      cases c with
      | raw fragment => cases h
      | _ => rfl
  | statement r =>
      cases r with
      | select id => cases h
      | _ => rfl
  | _ => rfl

theorem interleave_matches : (parts : List String) → {values values' : List (List Piece)} →
    List.Forall₂ (LayoutMatches changed bound) values values' →
      LayoutMatches changed bound (interleave parts values) (interleave parts values')
  | [], _, _, _ => .nil
  | [part], _, _, _ => .cons (.copied part) .nil
  | part :: _ :: _, _, _, .nil => .cons (.copied part) .nil
  | part :: next :: parts, _, _, .cons h hs =>
      .cons (.copied part) (List.rel_append h (interleave_matches (next :: parts) hs))

mutual

theorem Value.Matches.layout : {v v' : Value} → v.Matches changed v' →
    LayoutMatches changed bound v.layout v'.layout
  | _, _, .same v => pieces_same v.layout
  | _, _, .data hv hv' hchanged => by
      rw [Value.layout_of_isData hv, Value.layout_of_isData hv']
      exact .cons (.value (.inr hchanged)) .nil
  | _, _, .raw hfragment => hfragment.layout

theorem Value.AllMatch.layouts : {vs vs' : List Value} → Value.AllMatch changed vs vs' →
    List.Forall₂ (LayoutMatches changed bound) (vs.map Value.layout) (vs'.map Value.layout)
  | _, _, .nil => .nil
  | _, _, .cons h hs => .cons h.layout hs.layouts

theorem Raw.Matches.layout : {fragment fragment' : Raw} → fragment.Matches changed fragment' →
    LayoutMatches changed bound fragment.layout fragment'.layout
  | _, _, .mk text serial serial' hmembers => by
      have hlayouts := hmembers.layouts
      rw [← Value.memberLayouts_eq, ← Value.memberLayouts_eq] at hlayouts
      exact interleave_matches (Text.splitAt '?' text.text) hlayouts

end

theorem Value.AllMatch.valueLayouts {vs vs' : List Value} (h : Value.AllMatch changed vs vs') :
    List.Forall₂ (LayoutMatches changed bound) (Value.layouts vs) (Value.layouts vs') := by
  rw [Value.layouts_eq, Value.layouts_eq]
  exact h.layouts

/-! ## Layouts of conditions -/

mutual

theorem Condition.Matches.unwrapped : {c c' : Condition} → c.Matches changed c' →
    Value.OperandMatches changed c.unwrapped c'.unwrapped
  | _, _, .same c => .same c.unwrapped
  | _, _, .comparison op column serial serial' h =>
      .condition (.comparison op column serial serial' h)
  | _, _, .between column serial serial' hlow hhigh =>
      .condition (.between column serial serial' hlow hhigh)
  | _, _, .pattern column ignoresCase serial serial' h =>
      .condition (.pattern column ignoresCase serial serial' h)
  | _, _, .membership column serial serial' hlisted hlisted' htruthy hmembers =>
      .condition (.membership column serial serial' hlisted hlisted' htruthy hmembers)
  | _, _, .stream column number serial serial' hitems =>
      .condition (.stream column number serial serial' hitems)
  | _, _, .logical op serial serial' hoperands => by
      have honly := hoperands.onlyUnwrapped
      rw [Condition.unwrapped, Condition.unwrapped]
      revert honly
      generalize Value.onlyUnwrapped? _ = only, Value.onlyUnwrapped? _ = only'
      intro honly
      cases honly with
      | some h => exact h
      | none => exact .condition (.logical op serial serial' hoperands)
  | _, _, .negation serial serial' hinner => .condition (.negation serial serial' hinner)
  | _, _, .raw hfragment => .condition (.raw hfragment)

theorem Value.OperandMatches.unwrapped : {v v' : Value} → v.OperandMatches changed v' →
    Value.OperandMatches changed v.unwrapped v'.unwrapped
  | _, _, .same v => .same v.unwrapped
  | _, _, .condition h => h.unwrapped

theorem Value.OperandsMatch.onlyUnwrapped : {v v' : Value} → v.OperandsMatch changed v' →
    Option.Rel (Value.OperandMatches changed) v.onlyUnwrapped? v'.onlyUnwrapped?
  | _, _, .same v => by
      cases v.onlyUnwrapped? with
      | none => exact .none
      | some only => exact .some (.same only)
  | _, _, .list _ _ (.cons h .nil) => .some h.unwrapped
  | _, _, .list _ _ .nil => .none
  | _, _, .list _ _ (.cons _ (.cons _ _)) => .none
  | _, _, .tuple _ _ (.cons h .nil) => .some h.unwrapped
  | _, _, .tuple _ _ .nil => .none
  | _, _, .tuple _ _ (.cons _ (.cons _ _)) => .none
  | _, _, .set _ _ _ => .none

end

theorem Value.OperandMatches.needsParentheses_eq {v v' : Value} (h : v.OperandMatches changed v')
    (op : Connective) : v.needsParentheses op = v'.needsParentheses op := by
  have hunwrapped := h.unwrapped
  unfold Value.needsParentheses
  generalize v.unwrapped = u, v'.unwrapped = u' at hunwrapped
  cases hunwrapped with
  | same u => rfl
  | condition hc => cases hc <;> rfl

theorem Value.OperandMatches.isLogical_eq {v v' : Value} (h : v.OperandMatches changed v') :
    v.isLogical = v'.isLogical := by
  have hunwrapped := h.unwrapped
  unfold Value.isLogical
  generalize v.unwrapped = u, v'.unwrapped = u' at hunwrapped
  cases hunwrapped with
  | same u => rfl
  | condition hc => cases hc <;> rfl

section Connectives

variable {pieces pieces' : List Piece}

theorem parenthesized_matches (h : LayoutMatches changed bound pieces pieces') :
    LayoutMatches changed bound (Piece.parenthesized pieces) (Piece.parenthesized pieces') :=
  .cons (.word "(") (List.rel_append h (pieces_same [.word ")"]))

theorem column_matches (column : Value) (h : LayoutMatches changed bound pieces pieces') :
    LayoutMatches changed bound (Piece.column column pieces) (Piece.column column pieces') := by
  unfold Piece.column
  split
  · exact .cons (.identifier _) h
  · exact .cons (.unnamed column .nil) h

theorem lateColumn_matches (column : Value) (h : LayoutMatches changed bound pieces pieces') :
    LayoutMatches changed bound (Piece.lateColumn column pieces)
      (Piece.lateColumn column pieces') := by
  unfold Piece.lateColumn
  split
  · exact .cons (.identifier _) h
  · exact .cons (.unnamed column h) .nil

theorem Value.OperandMatches.asOperand {v v' : Value} (hv : v.OperandMatches changed v')
    (op : Connective) (h : LayoutMatches changed bound pieces pieces') :
    LayoutMatches changed bound (v.asOperand op pieces) (v'.asOperand op pieces') := by
  unfold Value.asOperand
  rw [hv.needsParentheses_eq op]
  split
  · exact parenthesized_matches h
  · exact h

theorem Value.OperandMatches.negated {v v' : Value} (hv : v.OperandMatches changed v')
    (h : LayoutMatches changed bound pieces pieces') :
    LayoutMatches changed bound (v.negated pieces) (v'.negated pieces') := by
  unfold Value.negated
  rw [hv.isLogical_eq]
  split
  · exact .cons (.word "NOT ") (parenthesized_matches h)
  · exact .cons (.word "NOT ") h

theorem joined_matches (word : String) {parts parts' : List (List Piece)}
    (h : List.Forall₂ (LayoutMatches changed bound) parts parts') :
    LayoutMatches changed bound (Piece.joined word parts) (Piece.joined word parts') :=
  forall₂_intercalate (.cons (.word word) .nil) h

theorem Value.AllOperandsMatch.asOperands (op : Connective) : {vs vs' : List Value} →
    {parts parts' : List (List Piece)} → Value.AllOperandsMatch changed vs vs' →
    List.Forall₂ (LayoutMatches changed bound) parts parts' →
      List.Forall₂ (LayoutMatches changed bound)
        (List.zipWith (Value.asOperand op) vs parts) (List.zipWith (Value.asOperand op) vs' parts')
  | _, _, _, _, .nil, _ => .nil
  | _, _, _, _, .cons _ _, .nil => .nil
  | _, _, _, _, .cons hv hvs, .cons h hs => .cons (hv.asOperand op h) (hvs.asOperands op hs)

theorem Value.AllOperandsMatch.joined (op : Connective) {vs vs' : List Value}
    {parts parts' : List (List Piece)} (hvs : Value.AllOperandsMatch changed vs vs')
    (h : List.Forall₂ (LayoutMatches changed bound) parts parts') :
    LayoutMatches changed bound (op.joined vs parts) (op.joined vs' parts') := by
  have hjoined := joined_matches (" " ++ op.text ++ " ") (hvs.asOperands op h)
  match hvs, h with
  | .nil, _ => exact hjoined
  | .cons _ (.cons _ _), _ => exact hjoined
  | .cons _ .nil, .nil => exact hjoined
  | .cons _ .nil, .cons _ (.cons _ _) => exact hjoined
  | .cons _ .nil, .cons h .nil => exact h

end Connectives

theorem layout_membership (column : Value) {values : Value} (serial : Serial)
    (h : values.isListed) :
    (Condition.membership column values serial).layout =
      if values.isTruthy then
        Piece.column column
          (.word " IN " :: Piece.parenthesized (Piece.joined ", " values.memberLayouts))
      else Piece.lateColumn column [.refused (.noMembers column)] := by
  cases values with
  | statement r =>
      cases r with
      | select id => cases h
      | _ => rfl
  | stream items number => cases h
  | _ => simp only [Condition.layout]

mutual

theorem Condition.Matches.layout : {c c' : Condition} → c.Matches changed c' →
    LayoutMatches changed bound c.layout c'.layout
  | _, _, .same c => pieces_same c.layout
  | _, _, .comparison op column serial serial' h =>
      column_matches column <| .cons (.word " ") <|
        .cons (Piece.Matches.refl OrChanged.refl op.operator) <| .cons (.word " ") h.layout
  | _, _, .between column serial serial' hlow hhigh =>
      lateColumn_matches column <| .cons (.word " BETWEEN ") <|
        List.rel_append hlow.layout (.cons (.word " AND ") hhigh.layout)
  | _, _, .pattern column ignoresCase serial serial' h =>
      column_matches column (.cons (.word _) h.layout)
  | _, _, .membership column serial serial' hlisted hlisted' htruthy hmembers => by
      rw [layout_membership column serial hlisted, layout_membership column serial' hlisted',
        htruthy, Value.memberLayouts_eq, Value.memberLayouts_eq]
      split
      · exact column_matches column <| .cons (.word " IN ") <|
          parenthesized_matches (joined_matches ", " hmembers.layouts)
      · exact pieces_same _
  | _, _, .stream column number serial serial' hitems =>
      column_matches column <| .cons (.word " IN ") <|
        parenthesized_matches (.cons (.streamed number hitems.valueLayouts) .nil)
  | _, _, .logical op serial serial' hoperands => hoperands.layout op
  | _, _, .negation serial serial' hinner => hinner.negated hinner.layout
  | _, _, .raw hfragment => hfragment.layout

theorem Value.OperandMatches.layout : {v v' : Value} → v.OperandMatches changed v' →
    LayoutMatches changed bound v.conditionLayout v'.conditionLayout
  | _, _, .same v => pieces_same v.conditionLayout
  | _, _, .condition h => h.layout

theorem Value.AllOperandsMatch.layouts : {vs vs' : List Value} →
    Value.AllOperandsMatch changed vs vs' →
      List.Forall₂ (LayoutMatches changed bound) (Value.conditionLayouts vs)
        (Value.conditionLayouts vs')
  | _, _, .nil => .nil
  | _, _, .cons h hs => .cons h.layout hs.layouts

theorem Value.OperandsMatch.layout (op : Connective) : {v v' : Value} →
    v.OperandsMatch changed v' →
      LayoutMatches changed bound (v.operandsLayout op) (v'.operandsLayout op)
  | _, _, .same v => pieces_same (v.operandsLayout op)
  | _, _, .list _ _ hitems => hitems.joined op hitems.layouts
  | _, _, .tuple _ _ hitems => hitems.joined op hitems.layouts
  | _, _, .set _ _ hitems => hitems.joined op hitems.layouts

end

/-! ## Layouts of clauses -/

theorem map_matches {α : Type} {R : α → α → Prop} {layout layout' : α → List Piece}
    {as as' : List α} (has : List.Forall₂ R as as')
    (h : ∀ a a', R a a' → LayoutMatches changed bound (layout a) (layout' a')) :
    List.Forall₂ (LayoutMatches changed bound) (as.map layout) (as'.map layout') :=
  List.rel_map (fun _ _ ha => h _ _ ha) has

theorem optional_matches {α : Type} {R : α → α → Prop} {layout : α → List Piece}
    {clause clause' : Option α} (hclause : Option.Rel R clause clause')
    (h : ∀ a a', R a a' → LayoutMatches changed bound (layout a) (layout a')) :
    List.Forall₂ (LayoutMatches changed bound) (optional clause layout)
      (optional clause' layout) := by
  cases hclause with
  | none => exact .nil
  | some ha => exact .cons (h _ _ ha) .nil

theorem Column.Matches.layout {column column' : Column} (h : column.Matches changed column') :
    LayoutMatches changed bound column.layout column'.layout := by
  cases h with
  | same column => exact pieces_same column.layout
  | raw hfragment => exact hfragment.layout

theorem Column.Matches.orderLayout {column column' : Column} (h : column.Matches changed column') :
    LayoutMatches changed bound column.orderLayout column'.orderLayout := by
  cases h with
  | same column => exact pieces_same column.orderLayout
  | raw hfragment => exact hfragment.layout

theorem listLayout_matches {columns columns' : List Column}
    (h : List.Forall₂ (Column.Matches changed) columns columns') :
    LayoutMatches changed bound (Column.listLayout columns) (Column.listLayout columns') :=
  joined_matches ", " (map_matches h fun _ _ => Column.Matches.layout)

theorem orAll_matches {columns columns' : List Column}
    (h : List.Forall₂ (Column.Matches changed) columns columns') :
    LayoutMatches changed bound
      (if columns.isEmpty then [.word "*"] else Column.listLayout columns)
      (if columns'.isEmpty then [.word "*"] else Column.listLayout columns') := by
  cases h with
  | nil => exact pieces_same [.word "*"]
  | cons hcolumn hcolumns => exact listLayout_matches (.cons hcolumn hcolumns)

theorem expressions_matches {columns columns' : List Column}
    (h : List.Forall₂ (Column.Matches changed) columns columns') :
    Option.Rel (List.Forall₂ (Column.Matches changed)) (expressions columns)
      (expressions columns') := by
  cases h with
  | nil => exact .none
  | cons hcolumn hcolumns => exact .some (.cons hcolumn hcolumns)

theorem JoinTerms.Matches.layout {terms terms' : JoinTerms} (h : terms.Matches changed terms') :
    LayoutMatches changed bound terms.layout terms'.layout := by
  cases h with
  | same terms => exact pieces_same terms.layout
  | condition h => exact h.layout

theorem Join.Matches.layout {j j' : Join} (h : j.Matches changed j') :
    LayoutMatches changed bound j.layout j'.layout := by
  unfold Join.layout
  rw [h.kind, h.table]
  exact .cons (.word _) (.cons (.reference _) (.cons (.word " ON ") h.terms.layout))

theorem ConditionClause.layout_matches (clause : ConditionClause) {c c' : Option Condition}
    (h : Option.Rel (Condition.Matches changed) c c') :
    List.Forall₂ (LayoutMatches changed bound) (clause.layout c) (clause.layout c') :=
  optional_matches h fun _ _ hc => .cons (.word _) hc.layout

theorem returningLayout_matches {returning returning' : Option (List Column)}
    (h : Option.Rel (List.Forall₂ (Column.Matches changed)) returning returning') :
    List.Forall₂ (LayoutMatches changed bound)
      (returningLayout returning) (returningLayout returning') :=
  optional_matches h fun _ _ hcolumns => .cons (.word "RETURNING ") (orAll_matches hcolumns)

theorem CountMatches.layout {n n' : Nat} (word : String) (h : CountMatches changed bound n n') :
    LayoutMatches changed bound [.word word, .count n] [.word word, .count n'] := by
  refine .cons (.word word) (.cons (.count ?_) .nil)
  rcases h with rfl | ⟨hbound, hchanged⟩
  · split
    · exact .refl _
    · rfl
  · rw [if_pos hbound]
    exact .inr hchanged

/-! ## Layouts of statements -/

theorem Select.Matches.layout {s s' : Select} (h : s.Matches changed bound s') :
    LayoutMatches changed bound s.layout s'.layout := by
  refine joined_matches " " ?_
  unfold Select.clauses
  rw [h.distinct, h.source, h.sourceAlias, h.forUpdate]
  -- The clauses are peeled off from the last one to the first.
  refine List.rel_append ?_ (items_same _)
  refine List.rel_append ?_ (optional_matches h.offset fun _ _ => CountMatches.layout "OFFSET ")
  refine List.rel_append ?_ (optional_matches h.limit fun _ _ => CountMatches.layout "LIMIT ")
  refine List.rel_append ?_ (optional_matches (expressions_matches h.order) fun _ _ hcolumns =>
    .cons (.word "ORDER BY ")
      (joined_matches ", " (map_matches hcolumns fun _ _ => Column.Matches.orderLayout)))
  refine List.rel_append ?_ (ConditionClause.groups.layout_matches h.groups)
  refine List.rel_append ?_ (optional_matches (expressions_matches h.grouping) fun _ _ hcolumns =>
    .cons (.word "GROUP BY ") (listLayout_matches hcolumns))
  refine List.rel_append ?_ (ConditionClause.rows.layout_matches h.rows)
  refine List.rel_append ?_ (map_matches h.joins fun _ _ => Join.Matches.layout)
  refine List.rel_append ?_ (items_same _)
  exact List.rel_append (items_same _) (.cons (orAll_matches h.columns) .nil)

theorem Row.Matches.columns_eq {row row' : Row} (h : row.Matches changed row') :
    row.columns = row'.columns := by
  have hnames : List.Forall₂ Eq (row.map Prod.fst) (row'.map Prod.fst) :=
    List.rel_map (fun _ _ hcell => hcell.1) h
  rwa [List.forall₂_eq_eq_eq] at hnames

theorem Row.Matches.value? (column : Name) : {row row' : Row} → row.Matches changed row' →
    Option.Rel (Value.Matches changed) (row.value? column) (row'.value? column)
  | _, _, .nil => .none
  | (name, v) :: row, (name', v') :: row', .cons ⟨hname, hv⟩ hrow => by
      have hrest := Row.Matches.value? column hrow
      cases (show name = name' from hname)
      unfold Row.value? at hrest ⊢
      simp only [List.find?_cons]
      cases decide (name.text = column.text) with
      | true => exact .some hv
      | false => exact hrest

theorem Row.Matches.layout (columns : List Name) {row row' : Row} (h : row.Matches changed row') :
    LayoutMatches changed bound (row.layout columns) (row'.layout columns) := by
  refine parenthesized_matches (joined_matches ", " ?_)
  refine map_matches (List.forall₂_same.mpr fun _ _ => rfl) ?_
  rintro column _ rfl
  have hcell := Row.Matches.value? column h
  unfold Row.cellLayout
  generalize row.value? column = cell, row'.value? column = cell' at hcell
  cases hcell with
  | none => exact pieces_same _
  | some hv => exact hv.layout

theorem Insert.Matches.columnNames_eq {s s' : Insert} (h : s.Matches changed s') :
    s.columnNames = s'.columnNames := by
  have hrows := h.rows
  unfold Insert.columnNames
  rw [h.columns]
  generalize s.rows = rows, s'.rows = rows' at hrows
  cases hrows with
  | nil => rfl
  | cons hrow _ => simp only [hrow.columns_eq]

theorem Insert.Matches.contents {s s' : Insert} (h : s.Matches changed s') :
    List.Forall₂ (LayoutMatches changed bound) s.contents s'.contents := by
  have hrows := h.rows
  unfold Insert.contents
  rw [h.columnNames_eq, h.columns, h.source]
  generalize s.rows = rows, s'.rows = rows' at hrows
  cases hrows with
  | nil => exact items_same _
  | cons hrow hrows =>
      refine .cons (pieces_same _) (.cons (.cons (.word "VALUES ") (joined_matches ", " ?_)) .nil)
      exact map_matches (.cons hrow hrows) fun _ _ => Row.Matches.layout s'.columnNames

theorem Insert.Matches.layout {s s' : Insert} (h : s.Matches changed s') :
    LayoutMatches changed bound s.layout s'.layout := by
  unfold Insert.layout
  rw [h.table]
  split
  · exact pieces_same _
  · refine joined_matches " " ?_
    refine List.rel_append ?_ (returningLayout_matches h.returning)
    exact List.rel_append (items_same _) h.contents

theorem assignmentsLayout_matches (table : Name) {assignments assignments' : Row}
    (h : Row.Matches changed assignments assignments') :
    LayoutMatches changed bound (assignmentsLayout table assignments)
      (assignmentsLayout table assignments') := by
  refine .cons (.word "UPDATE ") (.cons (.lateIdentifier table (.cons (.word " SET ") ?_)) .nil)
  refine joined_matches ", " (map_matches h ?_)
  rintro ⟨name, v⟩ ⟨_, v'⟩ ⟨rfl, hv⟩
  exact .cons (.identifier name) (.cons (.word " = ") hv.layout)

theorem Update.Matches.layout {s s' : Update} (h : s.Matches changed s') :
    LayoutMatches changed bound s.layout s'.layout := by
  have hassignments := h.assignments
  unfold Update.layout
  rw [h.table]
  generalize s.assignments = assignments, s'.assignments = assignments' at hassignments
  split
  · exact pieces_same _
  · cases hassignments with
    | nil => exact pieces_same _
    | cons hfirst hrest =>
        refine joined_matches " " ?_
        refine List.rel_append ?_ (returningLayout_matches h.returning)
        refine List.rel_append ?_ (ConditionClause.rows.layout_matches h.rows)
        exact .cons (assignmentsLayout_matches _ (.cons hfirst hrest)) .nil

theorem Delete.Matches.layout {s s' : Delete} (h : s.Matches changed s') :
    LayoutMatches changed bound s.layout s'.layout := by
  unfold Delete.layout
  rw [h.table]
  split
  · exact pieces_same _
  · refine joined_matches " " ?_
    refine List.rel_append ?_ (returningLayout_matches h.returning)
    exact List.rel_append (items_same _) (ConditionClause.rows.layout_matches h.rows)

end Layouts

end SqlComposer
