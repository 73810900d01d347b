import SqlComposer.Store
import SqlComposer.Writer.Condition

/-!
# Writing statements

The clauses of a statement are written in turn, and the SELECTs inside of it where they stand, so
all of them bind into the same list of values. A SELECT that is met again inside itself is refused,
so writing comes to an end, however statements refer to each other.
-/

namespace SqlComposer

/-- The expressions of a clause, which is left out if there are none. -/
def expressions (columns : List Column) : Option (List Column) :=
  if columns.isEmpty then none else some columns

/-- A clause that is left out if it has nothing. -/
def optionalWrite {α : Type} (clause : Option α) (write : α → Binding String) :
    List (Binding String) :=
  match clause with
  | none => []
  | some part => [write part]

section

variable (w : Writer) (sub : SelectId → Binding String)

/-! ## Clauses -/

/-- An entry of a select list, or an expression of another clause. -/
def Column.write : Column → Binding String
  | .named name => w.reference name.asEntry
  | .raw fragment => fragment.write w sub
  | .subselect id => do return inParentheses (← sub id)

def Column.writeOrder : Column → Binding String
  | .named name => w.ordering name.asEntry
  | column => column.write w sub

def Column.writeList (columns : List Column) : Binding String :=
  Binding.joined ", " (columns.map (Column.write w sub))

/-- A list of columns; without any it stands for all of them. -/
def Column.writeAny (columns : List Column) : Binding String :=
  if columns.isEmpty then pure "*" else Column.writeList w sub columns

def Writer.identifierList (names : List Name) : Binding String :=
  Binding.joined ", " (names.map fun name => w.identifier name.asEntry)

/-- The table or the subselect that rows are taken from. -/
def Source.write (sourceAlias : Option Name) : Source → Binding String
  | .table name => w.reference name
  | .subselect id => do
    let subselect := inParentheses (← sub id)
    match sourceAlias with
    | some name => return subselect ++ " AS " ++ (← w.quoted name)
    | none => return subselect

def JoinTerms.write : JoinTerms → Binding String
  | .pairs columns =>
    Binding.joined " AND " <| columns.map fun (left, right) => do
      return (← w.identifier left) ++ " = " ++ (← w.identifier right)
  | .condition c => c.write w sub

def Join.write (j : Join) : Binding String := do
  return j.kind.text ++ " " ++ (← w.reference j.table) ++ " ON " ++ (← j.terms.write w sub)

def ConditionClause.write (clause : ConditionClause) (condition : Option Condition) :
    List (Binding String) :=
  optionalWrite condition fun c => do return clause.text ++ " " ++ (← c.write w sub)

/-- The clause that says what to return. -/
def returningWrite (returning : Option (List Column)) : List (Binding String) :=
  optionalWrite returning fun columns => do
    return "RETURNING " ++ (← Column.writeAny w sub columns)

/-! ## Statements -/

def Select.clauseWrites (s : Select) : List (Binding String) :=
  [pure "SELECT"] ++ (if s.distinct.isTruthy then [pure "DISTINCT"] else []) ++
    [Column.writeAny w sub s.columns] ++
    optionalWrite s.source (fun source => do
      return "FROM " ++ (← source.write w sub s.sourceAlias)) ++
    s.joins.map (Join.write w sub) ++
    ConditionClause.rows.write w sub s.rows ++
    optionalWrite (expressions s.grouping) (fun columns => do
      return "GROUP BY " ++ (← Column.writeList w sub columns)) ++
    ConditionClause.groups.write w sub s.groups ++
    optionalWrite (expressions s.order) (fun columns => do
      return "ORDER BY " ++ (← Binding.joined ", " (columns.map (Column.writeOrder w sub)))) ++
    optionalWrite s.limit (fun n => do return "LIMIT " ++ (← w.count n)) ++
    optionalWrite s.offset (fun n => do return "OFFSET " ++ (← w.count n)) ++
    (if s.forUpdate.isTruthy then [pure "FOR UPDATE"] else [])

def Select.write (s : Select) : Binding String :=
  Binding.joined " " (s.clauseWrites w sub)

def Row.writeCell (row : Row) (column : Name) : Binding String :=
  match row.value? column with
  | some value => value.write w sub
  | none => w.refuse (.cellMissing column)

/-- One row in parentheses, its values in the order of the columns. -/
def Row.write (columns : List Name) (row : Row) : Binding String := do
  return inParentheses (← Binding.joined ", " (columns.map (Row.writeCell w sub row)))

/-- The rows of an INSERT, or the subselect that they come from. -/
def Insert.contentWrites (s : Insert) : List (Binding String) :=
  if !s.rows.isEmpty then
    [do return inParentheses (← w.identifierList s.columnNames),
      do return "VALUES " ++
        (← Binding.joined ", " (s.rows.map (Row.write w sub s.columnNames)))]
  else
    match s.source with
    | none => [w.refuse .insertWithoutRows]
    | some id =>
      (if s.columns.isEmpty then [] else
        [do return inParentheses (← w.identifierList s.columns)]) ++ [sub id]

def Insert.write (s : Insert) : Binding String :=
  match s.table with
  | none => w.refuse .insertWithoutTable
  | some table =>
    Binding.joined " " <|
      [do return "INSERT INTO " ++ (← w.identifier table)] ++ s.contentWrites w sub ++
        returningWrite w sub s.returning

def writeAssignment (assignment : Name × Value) : Binding String := do
  return (← w.identifier assignment.1) ++ " = " ++ (← assignment.2.write w sub)

/-- The table of an UPDATE and its assignments, which are written first. -/
def writeAssignments (table : Name) (assignments : Row) : Binding String := do
  let assignments ← Binding.joined ", " (assignments.map (writeAssignment w sub))
  return "UPDATE " ++ (← w.identifier table) ++ " SET " ++ assignments

def Update.write (s : Update) : Binding String :=
  match s.table with
  | none => w.refuse .updateWithoutTable
  | some table =>
    if s.assignments.isEmpty then w.refuse .updateWithoutAssignments
    else
      Binding.joined " " <|
        [writeAssignments w sub table s.assignments] ++ ConditionClause.rows.write w sub s.rows ++
          returningWrite w sub s.returning

def Delete.write (s : Delete) : Binding String :=
  match s.table with
  | none => w.refuse .deleteWithoutTable
  | some table =>
    Binding.joined " " <|
      [do return "DELETE FROM " ++ (← w.identifier table)] ++
        ConditionClause.rows.write w sub s.rows ++ returningWrite w sub s.returning

end

namespace Store

/-! ## SELECTs inside SELECTs -/

/-- The number of SELECT statements that are not being written. -/
def remaining (st : Store) (nesting : List SelectId) : Nat :=
  ((List.range st.selects.length).filter fun i => !nesting.contains ⟨i⟩).length

theorem remaining_lt {st : Store} {nesting : List SelectId} {id : SelectId}
    (fresh : id ∉ nesting) (known : id.index < st.selects.length) :
    st.remaining (id :: nesting) < st.remaining nesting := by
  have split : (List.range st.selects.length).filter (fun i => !(id :: nesting).contains ⟨i⟩) =
      ((List.range st.selects.length).filter fun i => !nesting.contains ⟨i⟩).filter
        fun i => i ≠ id.index := by
    rw [List.filter_filter]
    congr 1
    funext i
    by_cases h : i = id.index
    · subst h; simp
    · have : (⟨i⟩ : SelectId) ≠ id := fun e => h (congrArg SelectId.index e)
      simp [h, this]
  unfold remaining
  rw [split, List.length_filter_lt_length_iff_exists]
  exact ⟨id.index, by simp [known, fresh], by simp⟩

/-- A SELECT inside those of `nesting`, which it may not be one of. -/
def writeSelect (st : Store) (w : Writer) (nesting : List SelectId) (id : SelectId) :
    Binding String :=
  if _ : id ∈ nesting then w.refuse .nestedInItself
  else if _ : id.index < st.selects.length then
    (st.select id).write w fun inner => st.writeSelect w (id :: nesting) inner
  else Select.write w (fun _ => pure "") {}
termination_by st.remaining nesting
decreasing_by exact remaining_lt ‹_› ‹_›

def writeStatement (st : Store) (w : Writer) : StatementRef → Binding String
  | .bare id => w.refuse (.unknownStatement (StatementRef.bare id).kindName)
  | .select id => st.writeSelect w [] id
  | .insert id => (st.insert id).write w (st.writeSelect w [])
  | .update id => (st.update id).write w (st.writeSelect w [])
  | .delete id => (st.delete id).write w (st.writeSelect w [])

end Store

end SqlComposer
