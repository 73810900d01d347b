import SqlComposer.Statement.Select
import SqlComposer.Statement.Insert
import SqlComposer.Statement.Update
import SqlComposer.Statement.Delete

/-!
# Stores

All statements that have been started, each under its number. A number that has not been given out
stands for a statement without clauses.
-/

namespace SqlComposer

/-- The statements started so far. -/
structure Store where
  bares : List Value := []
  selects : List Select := []
  inserts : List Insert := []
  updates : List Update := []
  deletes : List Delete := []

namespace Store

/-! ## Looking up -/

def bare (st : Store) (id : BareId) : Value :=
  st.bares.getD id.index .null

def select (st : Store) (id : SelectId) : Select :=
  st.selects.getD id.index {}

def insert (st : Store) (id : InsertId) : Insert :=
  st.inserts.getD id.index {}

def update (st : Store) (id : UpdateId) : Update :=
  st.updates.getD id.index {}

def delete (st : Store) (id : DeleteId) : Delete :=
  st.deletes.getD id.index {}

/-- The dialect that a statement is tied to, or null. -/
def dialectOf (st : Store) : StatementRef → Value
  | .bare id => st.bare id
  | .select id => (st.select id).dialect
  | .insert id => (st.insert id).dialect
  | .update id => (st.update id).dialect
  | .delete id => (st.delete id).dialect

/-! ## Starting statements -/

def addBare (st : Store) (dialect : Value) : Store × BareId :=
  ({ st with bares := st.bares ++ [dialect] }, ⟨st.bares.length⟩)

def addSelect (st : Store) (dialect : Value) : Store × SelectId :=
  ({ st with selects := st.selects ++ [{ dialect }] }, ⟨st.selects.length⟩)

def addInsert (st : Store) (dialect : Value) : Store × InsertId :=
  ({ st with inserts := st.inserts ++ [{ dialect }] }, ⟨st.inserts.length⟩)

def addUpdate (st : Store) (dialect : Value) : Store × UpdateId :=
  ({ st with updates := st.updates ++ [{ dialect }] }, ⟨st.updates.length⟩)

def addDelete (st : Store) (dialect : Value) : Store × DeleteId :=
  ({ st with deletes := st.deletes ++ [{ dialect }] }, ⟨st.deletes.length⟩)

/-! ## Calls -/

inductive Call where
  | select (id : SelectId) (call : Select.Call)
  | insert (id : InsertId) (call : Insert.Call)
  | update (id : UpdateId) (call : Update.Call)
  | delete (id : DeleteId) (call : Delete.Call)

/-- Puts a SELECT in the place of the one with the same number. -/
def setSelect (st : Store) (id : SelectId) (s : Select) : Store :=
  { st with selects := st.selects.set id.index s }

def setInsert (st : Store) (id : InsertId) (s : Insert) : Store :=
  { st with inserts := st.inserts.set id.index s }

def setUpdate (st : Store) (id : UpdateId) (s : Update) : Store :=
  { st with updates := st.updates.set id.index s }

def setDelete (st : Store) (id : DeleteId) (s : Delete) : Store :=
  { st with deletes := st.deletes.set id.index s }

def call (st : Store) : Call → Outcome Store
  | .select id c =>
    let outcome := (st.select id).call id c
    ⟨st.setSelect id outcome.state, outcome.refusal⟩
  | .insert id c =>
    let outcome := (st.insert id).call c
    ⟨st.setInsert id outcome.state, outcome.refusal⟩
  | .update id c =>
    let outcome := (st.update id).call c
    ⟨st.setUpdate id outcome.state, outcome.refusal⟩
  | .delete id c =>
    let outcome := (st.delete id).call c
    ⟨st.setDelete id outcome.state, outcome.refusal⟩

end Store

end SqlComposer
