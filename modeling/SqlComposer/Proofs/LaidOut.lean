import SqlComposer.Proofs.Numbering

/-!
# What is written is laid out

Each value, condition, clause and statement is written as the pieces of its layout are, with the
placeholders numbered in the order of the text. A part that was written out of turn and bound values
there would have no layout.
-/

namespace SqlComposer

section LaidOut

variable {w : Writer} {sub : SelectId → List Piece}

/-! ## Parts of conditions -/

theorem laidOut_interleave : (parts : List String) → (values : List (List Piece)) →
    Raw.interleaved parts (values.map (laidOut w sub)) = laidOut w sub (interleave parts values)
  | [], _ => laidOut_nil.symm
  | [part], _ | part :: _ :: _, [] => (laidOut_lastWord part).symm
  | part :: next :: parts, value :: values => by
      simp only [List.map_cons, Raw.interleaved, interleave, laidOut_copied, laidOut_append,
        ← laidOut_interleave (next :: parts) values, bind_assoc, pure_bind, String.append_assoc]

theorem laidOut_asOperand (op : Connective) (v : Value) (pieces : List Piece) :
    laidOut w sub (v.asOperand op pieces) = do
      return v.operandText op (← laidOut w sub pieces) := by
  unfold Value.asOperand Value.operandText
  split
  · exact laidOut_parenthesized pieces
  · exact (bind_pure _).symm

theorem laidOut_operands (op : Connective) (operands : List Value) (parts : List (List Piece)) :
    op.write operands (parts.map (laidOut w sub)) = laidOut w sub (op.joined operands parts) := by
  have hmany : laidOut w sub (Piece.joined (" " ++ op.text ++ " ")
      (List.zipWith (Value.asOperand op) operands parts)) =
        Binding.joined (" " ++ op.text ++ " ") (List.zipWith
          (fun v write => do return v.operandText op (← write)) operands
          (parts.map (laidOut w sub))) := by
    rw [laidOut_joined, List.map_zipWith, List.zipWith_map_right]
    simp only [laidOut_asOperand]
  match operands, parts with
  | [_], [only] => rfl
  | [], _ | [_], [] | [_], _ :: _ :: _ | _ :: _ :: _, _ => exact hmany.symm

theorem laidOut_negated (v : Value) (pieces : List Piece) :
    laidOut w sub (v.negated pieces) = do
      let text ← laidOut w sub pieces
      return "NOT " ++ if v.isLogical then inParentheses text else text := by
  rw [Value.negated, laidOut_word]
  split
  · simp only [laidOut_parenthesized, bind_assoc, pure_bind]
  · rfl

theorem laidOut_membership (column values : Value) :
    w.membership column values (values.memberLayouts.map (laidOut w sub)) =
      laidOut w sub
        (if values.isTruthy then
          Piece.column column
            (.word " IN " :: Piece.parenthesized (Piece.joined ", " values.memberLayouts))
        else Piece.lateColumn column [.refused (.noMembers column)]) := by
  unfold Writer.membership
  split
  · simp only [laidOut_column, laidOut_word, laidOut_parenthesized, laidOut_joined, bind_assoc,
      pure_bind, String.append_assoc]
  · simp only [laidOut_lateColumn, laidOut_refused, Writer.refuse_bind]

/-! ## Values and conditions -/

mutual

theorem Value.write_eq (v : Value) : v.write w (laidOutSelect w sub) = laidOut w sub v.layout := by
  cases v with
  | condition c =>
      cases c with
      | raw fragment => exact fragment.write_eq
      | _ => exact (laidOut_value _).symm
  | statement r =>
      cases r with
      | select id => rw [Value.write, laidOutSelect, Value.layout, laidOut_parenthesized]
      | _ => exact (laidOut_value _).symm
  | _ => exact (laidOut_value _).symm

theorem Value.writes_eq : (vs : List Value) →
    Value.writes w (laidOutSelect w sub) vs = (Value.layouts vs).map (laidOut w sub)
  | [] => rfl
  | v :: vs => by
      rw [Value.writes, v.write_eq, Value.writes_eq vs, Value.layouts, List.map_cons]

theorem Value.keyWrites_eq : (entries : List (Value × Value)) →
    Value.keyWrites w (laidOutSelect w sub) entries = (Value.keyLayouts entries).map (laidOut w sub)
  | [] => rfl
  | (key, _) :: entries => by
      rw [Value.keyWrites, key.write_eq, Value.keyWrites_eq entries, Value.keyLayouts,
        List.map_cons]

theorem Value.memberWrites_eq (v : Value) :
    v.memberWrites w (laidOutSelect w sub) = v.memberLayouts.map (laidOut w sub) := by
  cases v with
  | list items _ | tuple items _ | set items _ | stream items _ => exact Value.writes_eq items
  | map entries _ => exact Value.keyWrites_eq entries
  | _ =>
      simp only [Value.memberWrites, Value.memberLayouts, List.map_map]
      exact List.map_congr_left fun member _ => (laidOut_value member).symm

theorem Raw.write_eq : (fragment : Raw) →
    fragment.write w (laidOutSelect w sub) = laidOut w sub fragment.layout
  | ⟨text, values, serial⟩ => by
      rw [Raw.write, values.memberWrites_eq, laidOut_interleave, Raw.layout]

theorem Value.writeCondition_eq (v : Value) :
    v.writeCondition w (laidOutSelect w sub) = laidOut w sub v.conditionLayout := by
  cases v with
  | condition c => exact c.write_eq
  | _ => exact (laidOut_refused _).symm

theorem Value.conditionWrites_eq : (vs : List Value) →
    Value.conditionWrites w (laidOutSelect w sub) vs =
      (Value.conditionLayouts vs).map (laidOut w sub)
  | [] => rfl
  | v :: vs => by
      rw [Value.conditionWrites, v.writeCondition_eq, Value.conditionWrites_eq vs,
        Value.conditionLayouts, List.map_cons]

theorem Value.keyConditionWrites_eq : (entries : List (Value × Value)) →
    Value.keyConditionWrites w (laidOutSelect w sub) entries =
      (Value.keyConditionLayouts entries).map (laidOut w sub)
  | [] => rfl
  | (key, _) :: entries => by
      rw [Value.keyConditionWrites, key.writeCondition_eq, Value.keyConditionWrites_eq entries,
        Value.keyConditionLayouts, List.map_cons]

theorem Value.writeOperands_eq (op : Connective) (v : Value) :
    v.writeOperands w (laidOutSelect w sub) op = laidOut w sub (v.operandsLayout op) := by
  cases v with
  | list items _ | tuple items _ | set items _ =>
      rw [Value.writeOperands, Value.conditionWrites_eq items, laidOut_operands,
        Value.operandsLayout]
  | map entries _ =>
      match entries with
      | [] => exact laidOut_operands op [] []
      | [(_, only)] => exact only.writeCondition_eq
      | first :: second :: rest =>
          simp only [Value.writeOperands, Value.operandsLayout, laidOut_operands,
            Value.keyConditionWrites_eq (first :: second :: rest)]
  | _ => exact (laidOut_refused _).symm

theorem Condition.write_eq : (c : Condition) →
    c.write w (laidOutSelect w sub) = laidOut w sub c.layout
  | .comparison op column value _ => by
      simp only [Condition.write, Condition.layout, laidOut_column, laidOut_word, laidOut_operator,
        value.write_eq, bind_assoc, pure_bind, String.append_assoc]
  | .isNull column negated _ => by
      simp only [Condition.write, Condition.layout, laidOut_column, laidOut_word, laidOut_nil,
        pure_bind, String.append_empty]
  | .between column low high _ => by
      simp only [Condition.write, Condition.layout, laidOut_lateColumn, laidOut_word,
        laidOut_append, low.write_eq, high.write_eq, bind_assoc, pure_bind, String.append_assoc]
  | .pattern column value ignoresCase _ => by
      simp only [Condition.write, Condition.layout, laidOut_column, laidOut_word, value.write_eq,
        bind_assoc, pure_bind, String.append_assoc]
  | .membership column values _ => by
      cases values with
      | statement r =>
          cases r with
          | select id =>
            simp only [Condition.write, Condition.layout, laidOut_column, laidOut_word,
              laidOut_parenthesized, laidOutSelect, bind_assoc, pure_bind, String.append_assoc]
          | _ =>
            exact (congrArg _ (Value.memberWrites_eq _)).trans (laidOut_membership column _)
      | stream items number =>
          simp only [Condition.write, Condition.layout, laidOut_column, laidOut_word,
            laidOut_parenthesized, laidOut_streamed, Value.writes_eq items, bind_assoc, pure_bind,
            String.append_assoc]
      | _ => exact (congrArg _ (Value.memberWrites_eq _)).trans (laidOut_membership column _)
  | .logical op operands _ => operands.writeOperands_eq op
  | .negation inner _ => by
      rw [Condition.write, inner.writeCondition_eq, Condition.layout, laidOut_negated]
  | .existence subselect negated _ => by
      cases subselect with
      | statement r =>
          cases r with
          | select id =>
            simp only [Condition.write, Condition.layout, laidOut_word, laidOut_parenthesized,
              laidOutSelect, bind_assoc, pure_bind]
          | _ => exact (laidOut_refused _).symm
      | _ => exact (laidOut_refused _).symm
  | .raw fragment => fragment.write_eq
  | .unspecified _ => (laidOut_refused _).symm

end

/-! ## Clauses -/

theorem Column.write_eq (column : Column) :
    column.write w (laidOutSelect w sub) = laidOut w sub column.layout := by
  cases column with
  | named name =>
      simp only [write, layout, laidOut_reference, laidOut_nil, pure_bind, String.append_empty,
        bind_pure]
  | raw fragment => exact fragment.write_eq
  | subselect id => rw [write, laidOutSelect, layout, laidOut_parenthesized]

theorem Column.writeOrder_eq (column : Column) :
    column.writeOrder w (laidOutSelect w sub) = laidOut w sub column.orderLayout := by
  cases column with
  | named name =>
      simp only [writeOrder, orderLayout, laidOut_ordering, laidOut_nil, pure_bind,
        String.append_empty, bind_pure]
  | raw fragment => exact write_eq (.raw fragment)
  | subselect id => exact write_eq (.subselect id)

theorem joined_eq {α : Type} {write : α → Binding String} {layout : α → List Piece}
    (h : ∀ a, write a = laidOut w sub (layout a)) (separator : String) (as : List α) :
    Binding.joined separator (as.map write) =
      laidOut w sub (Piece.joined separator (as.map layout)) := by
  rw [laidOut_joined, List.map_map]
  exact congrArg _ (List.map_congr_left fun a _ => h a)

theorem Column.writeList_eq (columns : List Column) :
    writeList w (laidOutSelect w sub) columns = laidOut w sub (listLayout columns) :=
  joined_eq write_eq ", " columns

theorem laidOut_identifierList (names : List Name) :
    laidOut w sub (identifierList names) = w.identifierList names := by
  refine (joined_eq (fun name => ?_) ", " names).symm
  simp only [laidOut_identifier, laidOut_nil, pure_bind, String.append_empty, bind_pure]

theorem Source.write_eq (sourceAlias : Option Name) (source : Source) :
    source.write w (laidOutSelect w sub) sourceAlias =
      laidOut w sub (source.layout sourceAlias) := by
  cases source with
  | table name =>
      simp only [write, layout, laidOut_reference, laidOut_nil, pure_bind, String.append_empty,
        bind_pure]
  | subselect id =>
      cases sourceAlias with
      | none =>
          simp only [write, layout, laidOutSelect, laidOut_append, laidOut_parenthesized,
            laidOut_nil, bind_assoc, pure_bind, String.append_empty]
      | some name =>
          simp only [write, layout, laidOutSelect, laidOut_append, laidOut_parenthesized,
            laidOut_word, laidOut_quoted, laidOut_nil, bind_assoc, pure_bind, String.append_empty,
            String.append_assoc]

theorem JoinTerms.write_eq (terms : JoinTerms) :
    terms.write w (laidOutSelect w sub) = laidOut w sub terms.layout := by
  cases terms with
  | pairs columns =>
      refine joined_eq (fun pair => ?_) " AND " columns
      simp only [laidOut_identifier, laidOut_word, laidOut_nil, bind_assoc, pure_bind,
        String.append_empty, String.append_assoc]
  | condition c => exact c.write_eq

theorem Join.write_eq (j : Join) : j.write w (laidOutSelect w sub) = laidOut w sub j.layout := by
  simp only [write, layout, laidOut_word, laidOut_reference, j.terms.write_eq, bind_assoc,
    pure_bind, String.append_assoc]

theorem optionalWrite_eq {α : Type} {write : α → Binding String} {layout : α → List Piece}
    (h : ∀ a, write a = laidOut w sub (layout a)) (keyword : String) (clause : Option α) :
    optionalWrite clause (fun a => do return keyword ++ (← write a)) =
      (optional clause fun a => .word keyword :: layout a).map (laidOut w sub) := by
  cases clause with
  | none => rfl
  | some a => simp only [optionalWrite, optional, List.map_cons, List.map_nil, laidOut_word, h]

theorem ConditionClause.write_eq (clause : ConditionClause) (condition : Option Condition) :
    clause.write w (laidOutSelect w sub) condition =
      (clause.layout condition).map (laidOut w sub) :=
  optionalWrite_eq Condition.write_eq (clause.text ++ " ") condition

theorem Column.writeAny_eq (columns : List Column) :
    writeAny w (laidOutSelect w sub) columns =
      laidOut w sub (if columns.isEmpty then [.word "*"] else listLayout columns) := by
  unfold writeAny
  split
  · exact (laidOut_lastWord "*").symm
  · exact writeList_eq columns

theorem returningWrite_eq (returning : Option (List Column)) :
    returningWrite w (laidOutSelect w sub) returning =
      (returningLayout returning).map (laidOut w sub) :=
  optionalWrite_eq Column.writeAny_eq "RETURNING " returning

/-! ## Statements -/

theorem Select.clauseWrites_eq (s : Select) :
    s.clauseWrites w (laidOutSelect w sub) = s.clauses.map (laidOut w sub) := by
  have hword (text : String) : pure text = laidOut w sub [.word text] :=
    (laidOut_lastWord text).symm
  have hswitch (b : Bool) (text : String) : (if b then [pure text] else []) =
      (if b then [[Piece.word text]] else []).map (laidOut w sub) := by
    cases b with
    | false => rfl
    | true => exact congrArg ([·]) (hword text)
  have hcount (n : Nat) : w.count n = laidOut w sub [.count n] := (laidOut_count n).symm
  have hjoins : s.joins.map (Join.write w (laidOutSelect w sub)) =
      (s.joins.map Join.layout).map (laidOut w sub) := by
    rw [List.map_map]
    exact List.map_congr_left fun j _ => j.write_eq
  simp only [clauseWrites, clauses, List.map_append, List.map_cons, List.map_nil, hword "SELECT",
    hswitch, hjoins, Column.writeAny_eq, ConditionClause.write_eq,
    optionalWrite_eq (Source.write_eq s.sourceAlias), optionalWrite_eq Column.writeList_eq,
    optionalWrite_eq (joined_eq Column.writeOrder_eq ", "), optionalWrite_eq hcount]

theorem Select.write_eq (s : Select) :
    s.write w (laidOutSelect w sub) = laidOut w sub s.layout := by
  rw [write, s.clauseWrites_eq, layout, laidOut_joined]

theorem Row.write_eq (columns : List Name) (row : Row) :
    row.write w (laidOutSelect w sub) columns = laidOut w sub (row.layout columns) := by
  have hcell (column : Name) : row.writeCell w (laidOutSelect w sub) column =
      laidOut w sub (row.cellLayout column) := by
    unfold writeCell cellLayout
    cases row.value? column with
    | some value => exact value.write_eq
    | none => exact (laidOut_refused _).symm
  rw [write, joined_eq hcell, layout, laidOut_parenthesized]

theorem Insert.contentWrites_eq (s : Insert) :
    s.contentWrites w (laidOutSelect w sub) = s.contents.map (laidOut w sub) := by
  unfold contentWrites contents
  split
  · simp only [List.map_cons, List.map_nil, laidOut_word, laidOut_parenthesized,
      laidOut_identifierList, joined_eq (Row.write_eq s.columnNames)]
  · cases s.source with
    | none => exact congrArg ([·]) (laidOut_refused _).symm
    | some id =>
        simp only [List.map_append, List.map_cons, List.map_nil]
        split
        · rfl
        · simp only [List.map_cons, List.map_nil, laidOut_parenthesized, laidOut_identifierList]
          rfl

theorem laidOut_target (keyword : String) (table : Name) :
    laidOut w sub [.word keyword, .identifier table] = do
      return keyword ++ (← w.identifier table) := by
  simp only [laidOut_word, laidOut_identifier, laidOut_nil, pure_bind, String.append_empty,
    bind_pure]

theorem Insert.write_eq (s : Insert) :
    s.write w (laidOutSelect w sub) = laidOut w sub s.layout := by
  unfold write layout
  cases s.table with
  | none => exact (laidOut_refused _).symm
  | some table =>
      simp only [s.contentWrites_eq, returningWrite_eq, laidOut_joined, List.map_append,
        List.map_cons, List.map_nil, laidOut_target]

theorem writeAssignment_eq (assignment : Name × Value) :
    writeAssignment w (laidOutSelect w sub) assignment =
      laidOut w sub (assignmentLayout assignment) := by
  simp only [writeAssignment, assignmentLayout, laidOut_identifier, laidOut_word,
    assignment.2.write_eq, bind_assoc, pure_bind, String.append_assoc]

theorem writeAssignments_eq (table : Name) (assignments : Row) :
    writeAssignments w (laidOutSelect w sub) table assignments =
      laidOut w sub (assignmentsLayout table assignments) := by
  simp only [writeAssignments, assignmentsLayout, laidOut_word, laidOut_lateIdentifier,
    joined_eq writeAssignment_eq, bind_assoc, pure_bind, String.append_assoc]

theorem Update.write_eq (s : Update) :
    s.write w (laidOutSelect w sub) = laidOut w sub s.layout := by
  unfold write layout
  cases s.table with
  | none => exact (laidOut_refused _).symm
  | some table =>
      simp only
      split
      · exact (laidOut_refused _).symm
      · simp only [writeAssignments_eq, ConditionClause.write_eq, returningWrite_eq,
          laidOut_joined, List.map_append, List.map_cons, List.map_nil]

theorem Delete.write_eq (s : Delete) :
    s.write w (laidOutSelect w sub) = laidOut w sub s.layout := by
  unfold write layout
  cases s.table with
  | none => exact (laidOut_refused _).symm
  | some table =>
      simp only [laidOut_target, ConditionClause.write_eq, returningWrite_eq, laidOut_joined,
        List.map_append, List.map_cons, List.map_nil]

/-! ## SELECTs inside SELECTs -/

namespace Store

theorem writeSelect_eq (st : Store) (w : Writer) (nesting : List SelectId) (id : SelectId) :
    st.writeSelect w nesting id = laidOutSelect w (st.selectPieces nesting) id := by
  rw [writeSelect, laidOutSelect, laidOut_subselect, selectPieces]
  split
  · have hrefused : laidOut w (st.selectPieces nesting) [.refused .nestedInItself] =
        w.refuse .nestedInItself :=
      laidOut_refused _
    exact hrefused.symm
  · split
    · have hinner : st.writeSelect w (id :: nesting) =
          laidOutSelect w (st.selectPieces (id :: nesting)) :=
        funext fun inner => st.writeSelect_eq w (id :: nesting) inner
      rw [hinner, Select.write_eq]
      rfl
    · -- Without clauses there is nothing that refers to a SELECT.
      have hwrite : Select.write w (fun _ => pure "") {} =
          Select.write w (laidOutSelect w fun _ => []) {} := by
        simp only [Select.write, Select.clauseWrites, Column.writeAny, List.isEmpty_nil, if_true,
          expressions, optionalWrite, ConditionClause.write, List.map_nil]
      have hpieces : unfolded (fun _ => []) (Select.layout {}) = Select.layout {} := rfl
      rw [hwrite, Select.write_eq, laidOut, hpieces]
termination_by st.remaining nesting
decreasing_by exact remaining_lt ‹_› ‹_›

theorem writeSelects_eq (st : Store) (w : Writer) (nesting : List SelectId) :
    st.writeSelect w nesting = laidOutSelect w (st.selectPieces nesting) :=
  funext (st.writeSelect_eq w nesting)

theorem writeStatement_eq (st : Store) (w : Writer) (r : StatementRef) :
    st.writeStatement w r = laidOut w (st.selectPieces []) (st.layout r) := by
  cases r with
  | bare id => exact (laidOut_refused _).symm
  | select id => exact st.writeSelect_eq w [] id
  | insert id => rw [writeStatement, writeSelects_eq, Insert.write_eq]; rfl
  | update id => rw [writeStatement, writeSelects_eq, Update.write_eq]; rfl
  | delete id => rw [writeStatement, writeSelects_eq, Delete.write_eq]; rfl

end Store

end LaidOut

end SqlComposer
