import SqlComposer.Store
import SqlComposer.Value.Display

/-!
# How statements are shown

A statement shows the clauses that it has at the moment, in the notation of values. One that is met
again inside itself is shown as dots.
-/

namespace SqlComposer

/-! ## Clauses -/

section Clauses

variable {m : Type → Type} [Monad m] (texts : StatementTexts m) (inside : List Serial)

def Column.shown : Column → m String
  | .named name => return name.shown
  | .raw fragment => fragment.shown texts inside
  | .subselect id => texts.shown inside (.select id)

def shownColumns (columns : List Column) : m String := do
  return shownList (← columns.mapM (Column.shown texts inside))

def Source.shown : Source → m String
  | .table name => return name.shown
  | .subselect id => texts.shown inside (.select id)

def JoinTerms.shown : JoinTerms → m String
  | .pairs columns =>
    return shownTuple (columns.map fun pair => shownTuple [pair.1.shown, pair.2.shown])
  | .condition c => c.shown texts inside

def Join.shown (j : Join) : m String := do
  return shownRecord "JoinSpec"
    [("kind", (Keyword.joinKind j.kind).shown), ("table", j.table.shown),
      ("on", ← j.terms.shown texts inside)]

/-- A row, as a mapping. -/
def Row.shown (row : Row) : m String := do
  return shownInBraces <| ← row.mapM fun entry => do
    return shownEntry entry.1.shown (← entry.2.shown texts inside)

def shownCondition (clause : Option Condition) : m String :=
  shownOption (Condition.shown texts inside) clause

def shownReturning (returning : Option (List Column)) : m String :=
  shownOption (shownColumns texts inside) returning

def shownName (name : Option Name) : String :=
  (name.map Name.shown).getD "None"

def shownCount (count : Option Nat) : String :=
  (count.map toString).getD "None"

/-! ## Statements -/

def Select.shown (s : Select) : m String := do
  return shownRecord "SelectBuilder"
    [("dialect", ← s.dialect.shown texts inside),
      ("_columns", ← shownColumns texts inside s.columns),
      ("_distinct", ← s.distinct.shown texts inside),
      ("_table", ← shownOption (Source.shown texts inside) s.source),
      ("_table_alias", shownName s.sourceAlias),
      ("_joins", shownList (← s.joins.mapM (Join.shown texts inside))),
      ("_where", ← shownCondition texts inside s.rows),
      ("_group_by", ← shownColumns texts inside s.grouping),
      ("_having", ← shownCondition texts inside s.groups),
      ("_order_by", ← shownColumns texts inside s.order),
      ("_limit", shownCount s.limit),
      ("_offset", shownCount s.offset),
      ("_for_update", ← s.forUpdate.shown texts inside)]

def Insert.shown (s : Insert) : m String := do
  return shownRecord "InsertBuilder"
    [("dialect", ← s.dialect.shown texts inside),
      ("_table", shownName s.table),
      ("_columns", shownList (s.columns.map Name.shown)),
      ("_rows", shownList (← s.rows.mapM (Row.shown texts inside))),
      ("_select", ← shownOption (fun id => texts.shown inside (.select id)) s.source),
      ("_returning", ← shownReturning texts inside s.returning)]

/-- The clauses of an UPDATE. A table that is not set shows as an empty text. -/
def Update.shown (s : Update) : m String := do
  return shownRecord "UpdateBuilder"
    [("dialect", ← s.dialect.shown texts inside),
      ("_table", (s.table.getD (.plain "")).shown),
      ("_assignments", ← Row.shown texts inside s.assignments),
      ("_where", ← shownCondition texts inside s.rows),
      ("_returning", ← shownReturning texts inside s.returning)]

/-- The clauses of a DELETE. A table that is not set shows as an empty text. -/
def Delete.shown (s : Delete) : m String := do
  return shownRecord "DeleteBuilder"
    [("dialect", ← s.dialect.shown texts inside),
      ("_table", (s.table.getD (.plain "")).shown),
      ("_where", ← shownCondition texts inside s.rows),
      ("_returning", ← shownReturning texts inside s.returning)]

end Clauses

/-- What is being shown where something else is to be shown or written: statements, and whatever has
one of the serial numbers. -/
structure Surroundings where
  statements : List StatementRef := []
  serials : List Serial := []

namespace Store

/-! ## Statements of a store -/

def refs (st : Store) : List StatementRef :=
  (List.range st.bares.length).map (.bare ⟨·⟩) ++
    (List.range st.selects.length).map (.select ⟨·⟩) ++
    (List.range st.inserts.length).map (.insert ⟨·⟩) ++
    (List.range st.updates.length).map (.update ⟨·⟩) ++
    (List.range st.deletes.length).map (.delete ⟨·⟩)

/-- The number of statements that are not being shown. -/
def unshown (st : Store) (nesting : List StatementRef) : Nat :=
  (st.refs.filter fun r => !nesting.contains r).length

theorem unshown_lt {st : Store} {nesting : List StatementRef} {r : StatementRef}
    (known : r ∈ st.refs) (fresh : r ∉ nesting) :
    st.unshown (r :: nesting) < st.unshown nesting := by
  have split : st.refs.filter (fun x => !(r :: nesting).contains x) =
      (st.refs.filter fun x => !nesting.contains x).filter fun x => x ≠ r := by
    rw [List.filter_filter]
    congr 1
    funext x
    by_cases h : x = r <;> simp [h]
  unfold unshown
  rw [split, List.length_filter_lt_length_iff_exists]
  exact ⟨r, by simp [known, fresh], by simp⟩

section Showing

variable {m : Type → Type} [Monad m]

/-- A statement with the clauses that it has. -/
def shownWith (st : Store) (texts : StatementTexts m) (inside : List Serial) :
    StatementRef → m String
  | .bare id => do
    return shownRecord "QueryBuilder" [("dialect", ← (st.bare id).shown texts inside)]
  | .select id => (st.select id).shown texts inside
  | .insert id => (st.insert id).shown texts inside
  | .update id => (st.update id).shown texts inside
  | .delete id => (st.delete id).shown texts inside

/-- A statement inside those of `nesting`, with `written` to write one there. -/
def shownInside (st : Store) (written : Surroundings → StatementRef → m String)
    (nesting : List StatementRef) (inside : List Serial) (r : StatementRef) : m String :=
  if _ : r ∈ nesting then return dots
  else if _ : r ∈ st.refs then
    st.shownWith ⟨fun inside inner => st.shownInside written (r :: nesting) inside inner,
      fun inside inner => written ⟨r :: nesting, inside⟩ inner⟩ inside r
  else st.shownWith ⟨fun _ _ => return dots, fun _ _ => return dots⟩ inside r
termination_by st.unshown nesting
decreasing_by exact unshown_lt ‹_› ‹_›

end Showing

end Store

end SqlComposer
