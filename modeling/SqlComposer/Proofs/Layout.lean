import SqlComposer.Proofs.Piece
import SqlComposer.Writer.Statement

/-!
# Layout

What values, conditions and statements consist of, as pieces in the order of the text. The layout
follows the tree that it is made from, and refers to subselects without looking at them. Writing
comes to writing the layout (`SqlComposer.Proofs.LaidOut`), so facts about all that is written are
facts about pieces.
-/

namespace SqlComposer

/-! ## Parts of conditions -/

/-- Puts the values of a raw fragment between the parts of its text. -/
def interleave : List String → List (List Piece) → List Piece
  | part :: next :: parts, value :: values =>
    .copied part :: (value ++ interleave (next :: parts) values)
  | part :: _, _ => [.copied part]
  | [], _ => []

/-- The pieces of the condition `v` as an operand of a connective. -/
def Value.asOperand (op : Connective) (v : Value) (pieces : List Piece) : List Piece :=
  if v.needsParentheses op then Piece.parenthesized pieces else pieces

/-- The pieces of the operands of a connective; a single one stands for itself. -/
def Connective.joined (op : Connective) : List Value → List (List Piece) → List Piece
  | [_], [only] => only
  | operands, parts =>
    Piece.joined (" " ++ op.text ++ " ") (List.zipWith (Value.asOperand op) operands parts)

/-- The pieces of the condition `v` behind NOT. -/
def Value.negated (v : Value) (pieces : List Piece) : List Piece :=
  .word "NOT " :: if v.isLogical then Piece.parenthesized pieces else pieces

def Value.operator (op : Value) : Piece :=
  match op.name? with
  | some name => .copied name.display
  | none => .display op

/-! ## Values and conditions -/

mutual

/-- A value: raw fragments and subselects stand for themselves, all else is bound. -/
def Value.layout : Value → List Piece
  | .condition (.raw fragment) => fragment.layout
  | .statement (.select id) => Piece.parenthesized [.subselect id]
  | v => [.value v]

def Value.layouts : List Value → List (List Piece)
  | [] => []
  | v :: vs => v.layout :: Value.layouts vs

def Value.keyLayouts : List (Value × Value) → List (List Piece)
  | [] => []
  | (key, _) :: entries => key.layout :: Value.keyLayouts entries

def Value.memberLayouts : Value → List (List Piece)
  | .list items _ => Value.layouts items
  | .tuple items _ => Value.layouts items
  | .set items _ => Value.layouts items
  | .map entries _ => Value.keyLayouts entries
  | .stream items _ => Value.layouts items
  | v => (v.members?.getD []).map fun member => [.value member]

/-- A raw fragment: its text with a value in the place of each marker. -/
def Raw.layout : Raw → List Piece
  | ⟨text, values, serial⟩ => interleave (Raw.fragments ⟨text, values, serial⟩) values.memberLayouts

def Value.conditionLayout : Value → List Piece
  | .condition c => c.layout
  | v => [.refused (.unknownCondition v.kindName)]

def Value.conditionLayouts : List Value → List (List Piece)
  | [] => []
  | v :: vs => v.conditionLayout :: Value.conditionLayouts vs

def Value.keyConditionLayouts : List (Value × Value) → List (List Piece)
  | [] => []
  | (key, _) :: entries => key.conditionLayout :: Value.keyConditionLayouts entries

/-- The operands of a connective, which are a sequence of conditions. -/
def Value.operandsLayout (op : Connective) : Value → List Piece
  | .list items _ => op.joined items (Value.conditionLayouts items)
  | .tuple items _ => op.joined items (Value.conditionLayouts items)
  | .set items _ => op.joined items (Value.conditionLayouts items)
  | .map [(_, only)] _ => only.conditionLayout
  | .map entries _ => op.joined (entries.map Prod.fst) (Value.keyConditionLayouts entries)
  | v => [.refused (.unknownCondition ((v.members?.bind List.head?).getD v).kindName)]

def Condition.layout : Condition → List Piece
  | .comparison op column value _ =>
    Piece.column column (.word " " :: op.operator :: .word " " :: value.layout)
  | .isNull column negated _ =>
    Piece.column column [.word (worded negated " IS NULL" " IS NOT NULL")]
  | .between column low high _ =>
    Piece.lateColumn column
      (.word " BETWEEN " :: (low.layout ++ .word " AND " :: high.layout))
  | .pattern column value ignoresCase _ =>
    Piece.column column (.word (worded ignoresCase " LIKE " " ILIKE ") :: value.layout)
  | .membership column (.statement (.select id)) _ =>
    Piece.column column (.word " IN " :: Piece.parenthesized [.subselect id])
  | .membership column (.stream items number) _ =>
    Piece.column column
      (.word " IN " :: Piece.parenthesized [.streamed number (Value.layouts items)])
  | .membership column values _ =>
    if values.isTruthy then
      Piece.column column
        (.word " IN " :: Piece.parenthesized (Piece.joined ", " values.memberLayouts))
    else Piece.lateColumn column [.refused (.noMembers column)]
  | .logical op operands _ => operands.operandsLayout op
  | .negation inner _ => inner.negated inner.conditionLayout
  | .existence (.statement (.select id)) negated _ =>
    .word (worded negated "EXISTS " "NOT EXISTS ") :: Piece.parenthesized [.subselect id]
  | .existence other _ _ => [.refused (.partMissing other "_distinct")]
  | .raw fragment => fragment.layout
  | .unspecified serial => [.refused (.unknownCondition (Condition.unspecified serial).kindName)]

end

/-! ## Clauses -/

/-- An entry of a select list, or an expression of another clause. -/
def Column.layout : Column → List Piece
  | .named name => [.reference name.asEntry]
  | .raw fragment => fragment.layout
  | .subselect id => Piece.parenthesized [.subselect id]

def Column.orderLayout : Column → List Piece
  | .named name => [.ordering name.asEntry]
  | column => column.layout

def Column.listLayout (columns : List Column) : List Piece :=
  Piece.joined ", " (columns.map Column.layout)

def identifierList (names : List Name) : List Piece :=
  Piece.joined ", " (names.map fun name => [.identifier name.asEntry])

/-- The table or the subselect that rows are taken from. -/
def Source.layout (sourceAlias : Option Name) : Source → List Piece
  | .table name => [.reference name]
  | .subselect id =>
    Piece.parenthesized [.subselect id] ++
      match sourceAlias with
      | some name => [.word " AS ", .quoted name]
      | none => []

def JoinTerms.layout : JoinTerms → List Piece
  | .pairs columns =>
    Piece.joined " AND " <| columns.map fun (left, right) =>
      [.identifier left, .word " = ", .identifier right]
  | .condition c => c.layout

def Join.layout (j : Join) : List Piece :=
  .word (j.kind.text ++ " ") :: .reference j.table :: .word " ON " :: j.terms.layout

/-- A clause that is left out if it has nothing. -/
def optional {α : Type} (clause : Option α) (layout : α → List Piece) : List (List Piece) :=
  match clause with
  | none => []
  | some part => [layout part]

def ConditionClause.layout (clause : ConditionClause) (condition : Option Condition) :
    List (List Piece) :=
  optional condition fun c => .word (clause.text ++ " ") :: c.layout

/-- The clause that says what to return; without expressions it returns all columns. -/
def returningLayout (returning : Option (List Column)) : List (List Piece) :=
  optional returning fun columns =>
    .word "RETURNING " :: if columns.isEmpty then [.word "*"] else Column.listLayout columns

/-! ## Statements -/

def Select.clauses (s : Select) : List (List Piece) :=
  [[.word "SELECT"]] ++ (if s.distinct.isTruthy then [[.word "DISTINCT"]] else []) ++
    [if s.columns.isEmpty then [.word "*"] else Column.listLayout s.columns] ++
    optional s.source (fun source => .word "FROM " :: source.layout s.sourceAlias) ++
    s.joins.map Join.layout ++
    ConditionClause.rows.layout s.rows ++
    optional (expressions s.grouping) (fun columns =>
      .word "GROUP BY " :: Column.listLayout columns) ++
    ConditionClause.groups.layout s.groups ++
    optional (expressions s.order) (fun columns =>
      .word "ORDER BY " :: Piece.joined ", " (columns.map Column.orderLayout)) ++
    optional s.limit (fun n => [.word "LIMIT ", .count n]) ++
    optional s.offset (fun n => [.word "OFFSET ", .count n]) ++
    (if s.forUpdate.isTruthy then [[.word "FOR UPDATE"]] else [])

def Select.layout (s : Select) : List Piece :=
  Piece.joined " " s.clauses

def Row.cellLayout (row : Row) (column : Name) : List Piece :=
  match row.value? column with
  | some value => value.layout
  | none => [.refused (.cellMissing column)]

/-- One row in parentheses, its values in the order of the columns. -/
def Row.layout (columns : List Name) (row : Row) : List Piece :=
  Piece.parenthesized (Piece.joined ", " (columns.map row.cellLayout))

/-- The rows of an INSERT, or the subselect that they come from. -/
def Insert.contents (s : Insert) : List (List Piece) :=
  if !s.rows.isEmpty then
    [Piece.parenthesized (identifierList s.columnNames),
      .word "VALUES " :: Piece.joined ", " (s.rows.map (Row.layout s.columnNames))]
  else
    match s.source with
    | none => [[.refused .insertWithoutRows]]
    | some id =>
      (if s.columns.isEmpty then [] else [Piece.parenthesized (identifierList s.columns)]) ++
        [[.subselect id]]

def Insert.layout (s : Insert) : List Piece :=
  match s.table with
  | none => [.refused .insertWithoutTable]
  | some table =>
    Piece.joined " " <|
      [[.word "INSERT INTO ", .identifier table]] ++ s.contents ++ returningLayout s.returning

def assignmentLayout (assignment : Name × Value) : List Piece :=
  .identifier assignment.1 :: .word " = " :: assignment.2.layout

/-- The table of an UPDATE and its assignments, which are written first. -/
def assignmentsLayout (table : Name) (assignments : Row) : List Piece :=
  [.word "UPDATE ",
    .lateIdentifier table
      (.word " SET " :: Piece.joined ", " (assignments.map assignmentLayout))]

def Update.layout (s : Update) : List Piece :=
  match s.table with
  | none => [.refused .updateWithoutTable]
  | some table =>
    if s.assignments.isEmpty then [.refused .updateWithoutAssignments]
    else
      Piece.joined " " <|
        [assignmentsLayout table s.assignments] ++ ConditionClause.rows.layout s.rows ++
          returningLayout s.returning

def Delete.layout (s : Delete) : List Piece :=
  match s.table with
  | none => [.refused .deleteWithoutTable]
  | some table =>
    Piece.joined " " <|
      [[.word "DELETE FROM ", .identifier table]] ++ ConditionClause.rows.layout s.rows ++
        returningLayout s.returning

def Store.layout (st : Store) : StatementRef → List Piece
  | .bare id => [.refused (.unknownStatement (StatementRef.bare id).kindName)]
  | .select id => [.subselect id]
  | .insert id => (st.insert id).layout
  | .update id => (st.update id).layout
  | .delete id => (st.delete id).layout

end SqlComposer
