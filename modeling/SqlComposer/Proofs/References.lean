import Mathlib.Logic.Relation
import SqlComposer.Proofs.Orderly

/-!
# References between statements

Which SELECTs a statement refers to, collected by going through its clauses, and which it reaches
from one to the next. The references are the ones that its layout has a place for, and what a SELECT
unfolds to depends only on the SELECTs that it reaches.
-/

namespace SqlComposer

open Relation

/-! ## References of trees -/

/-- What a traversal collects for a SELECT: the SELECT itself. -/
def mark (id : SelectId) : List Value :=
  [.statement (.select id)]

def Condition.references (c : Condition) : List SelectId :=
  (c.bindings mark).filterMap Value.select?

def Select.references (s : Select) : List SelectId :=
  (s.bindings mark false).filterMap Value.select?

def Insert.references (s : Insert) : List SelectId :=
  (s.bindings mark).filterMap Value.select?

def Update.references (s : Update) : List SelectId :=
  (s.bindings mark).filterMap Value.select?

def Delete.references (s : Delete) : List SelectId :=
  (s.bindings mark).filterMap Value.select?

/-! ## References of pieces -/

mutual

def Piece.references : Piece → List SelectId
  | .subselect id => [id]
  | .streamed _ items => referencesInItems items
  | .unnamed _ behind => referencesIn behind
  | .lateIdentifier _ behind => referencesIn behind
  | _ => []

def referencesIn : List Piece → List SelectId
  | [] => []
  | piece :: pieces => piece.references ++ referencesIn pieces

def referencesInItems : List (List Piece) → List SelectId
  | [] => []
  | item :: items => referencesIn item ++ referencesInItems items

end

section Layouts

mutual

theorem Piece.selects_bindings : (piece : Piece) → piece.isOrderly false →
    (piece.bindings false mark).filterMap Value.select? = piece.references
  | .value v, h => by
      rw [Piece.isOrderly, Option.isNone_iff_eq_none] at h
      exact List.filterMap_cons_none h
  | .streamed _ items, h => selects_bindingsInItems items h
  | .unnamed _ behind, h => selects_bindingsIn behind h
  | .lateIdentifier _ behind, h => selects_bindingsIn behind h
  | .subselect _, _ => rfl
  | .word _, _ | .copied _, _ | .identifier _, _ | .reference _, _ | .ordering _, _
  | .quoted _, _ | .count _, _ | .display _, _ | .refused _, _ => rfl

theorem selects_bindingsIn : (pieces : List Piece) → orderlyIn false pieces →
    (bindingsIn false mark pieces).filterMap Value.select? = referencesIn pieces
  | [], _ => rfl
  | piece :: pieces, h => by
      rw [orderlyIn_cons, Bool.and_eq_true] at h
      rw [bindingsIn, List.filterMap_append, piece.selects_bindings h.1,
        selects_bindingsIn pieces h.2, referencesIn]

theorem selects_bindingsInItems : (items : List (List Piece)) → orderlyInItems false items →
    (bindingsInItems false mark items).filterMap Value.select? = referencesInItems items
  | [], _ => rfl
  | item :: items, h => by
      rw [orderlyInItems, Bool.and_eq_true] at h
      rw [bindingsInItems, List.filterMap_append, selects_bindingsIn item h.1,
        selects_bindingsInItems items h.2, referencesInItems]

end

theorem Condition.referencesIn_layout (c : Condition) :
    referencesIn c.layout = c.references := by
  have horderly : orderlyIn false c.layout := c.orderly_layout nofun
  rw [← selects_bindingsIn _ horderly, c.bindingsIn_layout, references]

theorem Select.referencesIn_layout (s : Select) : referencesIn s.layout = s.references := by
  have horderly : orderlyIn false s.layout := Select.orderly_layout nofun
  rw [← selects_bindingsIn _ horderly, s.bindingsIn_layout, references]

/-! ## Clauses of any statement -/

/-- The clauses of a statement of any kind. -/
inductive Clauses where
  | bare
  | select (s : Select)
  | insert (s : Insert)
  | update (s : Update)
  | delete (s : Delete)

namespace Clauses

def kindName : Clauses → String
  | bare => (StatementRef.bare ⟨0⟩).kindName
  | select _ => (StatementRef.select ⟨0⟩).kindName
  | insert _ => (StatementRef.insert ⟨0⟩).kindName
  | update _ => (StatementRef.update ⟨0⟩).kindName
  | delete _ => (StatementRef.delete ⟨0⟩).kindName

def layout : Clauses → List Piece
  | bare => [.refused (.unknownStatement bare.kindName)]
  | select s => s.layout
  | insert s => s.layout
  | update s => s.layout
  | delete s => s.layout

def references : Clauses → List SelectId
  | bare => []
  | select s => s.references
  | insert s => s.references
  | update s => s.references
  | delete s => s.references

theorem referencesIn_layout (c : Clauses) :
    referencesIn c.layout = c.references ∨ ∃ cause, c.layout = [.refused cause] := by
  cases c with
  | bare => exact .inl rfl
  | select s => exact .inl s.referencesIn_layout
  | insert s =>
      cases htable : s.table with
      | none => exact .inr ⟨_, by rw [layout, Insert.layout, htable]⟩
      | some table =>
          have horderly : orderlyIn false s.layout :=
            Insert.orderly_layout fun h => absurd h Bool.false_ne_true
          refine .inl ?_
          rw [layout, ← selects_bindingsIn _ horderly, Insert.bindingsIn_layout htable]
          rfl
  | update s =>
      cases htable : s.table with
      | none => exact .inr ⟨_, by rw [layout, Update.layout, htable]⟩
      | some table =>
          cases hempty : s.assignments.isEmpty with
          | true =>
              refine .inr ⟨.updateWithoutAssignments, ?_⟩
              simp [layout, Update.layout, htable, hempty]
          | false =>
              have horderly : orderlyIn false s.layout :=
                Update.orderly_layout fun h => absurd h Bool.false_ne_true
              refine .inl ?_
              rw [layout, ← selects_bindingsIn _ horderly, Update.bindingsIn_layout htable hempty]
              rfl
  | delete s =>
      cases htable : s.table with
      | none => exact .inr ⟨_, by rw [layout, Delete.layout, htable]⟩
      | some table =>
          have horderly : orderlyIn false s.layout :=
            Delete.orderly_layout fun h => absurd h Bool.false_ne_true
          refine .inl ?_
          rw [layout, ← selects_bindingsIn _ horderly, Delete.bindingsIn_layout htable]
          rfl

theorem mem_references {c : Clauses} {id : SelectId} (h : id ∈ referencesIn c.layout) :
    id ∈ c.references := by
  rcases c.referencesIn_layout with hreferences | ⟨cause, hrefused⟩
  · rwa [← hreferences]
  · rw [hrefused] at h
    cases h

end Clauses

end Layouts

/-! ## Unfolding -/

section Unfolding

variable {sub sub' : SelectId → List Piece}

mutual

theorem Piece.unfolded_congr : (piece : Piece) → (∀ id ∈ piece.references, sub id = sub' id) →
    piece.unfolded sub = piece.unfolded sub'
  | .subselect id, h => h id (List.mem_singleton.mpr rfl)
  | .streamed number items, h => by
      rw [Piece.unfolded, Piece.unfolded, unfoldedItems_congr items h]
  | .unnamed column behind, h => by
      rw [Piece.unfolded, Piece.unfolded, SqlComposer.unfolded_congr behind h]
  | .lateIdentifier name behind, h => by
      rw [Piece.unfolded, Piece.unfolded, SqlComposer.unfolded_congr behind h]
  | .word _, _ | .copied _, _ | .identifier _, _ | .reference _, _ | .ordering _, _
  | .quoted _, _ | .value _, _ | .count _, _ | .display _, _ | .refused _, _ => rfl

theorem unfolded_congr : (pieces : List Piece) → (∀ id ∈ referencesIn pieces, sub id = sub' id) →
    unfolded sub pieces = unfolded sub' pieces
  | [], _ => rfl
  | piece :: pieces, h => by
      simp only [referencesIn, List.mem_append] at h
      rw [unfolded, unfolded, piece.unfolded_congr fun id hid => h id (.inl hid),
        unfolded_congr pieces fun id hid => h id (.inr hid)]

theorem unfoldedItems_congr : (items : List (List Piece)) →
    (∀ id ∈ referencesInItems items, sub id = sub' id) →
    unfoldedItems sub items = unfoldedItems sub' items
  | [], _ => rfl
  | item :: items, h => by
      simp only [referencesInItems, List.mem_append] at h
      rw [unfoldedItems, unfoldedItems, unfolded_congr item fun id hid => h id (.inl hid),
        unfoldedItems_congr items fun id hid => h id (.inr hid)]

end

end Unfolding

/-! ## References in a store -/

namespace Store

def references (st : Store) : StatementRef → List SelectId
  | .bare _ => []
  | .select id => [id]
  | .insert id => (st.insert id).references
  | .update id => (st.update id).references
  | .delete id => (st.delete id).references

/-- The clauses of a statement, without the dialect that it is tied to. -/
def clauses (st : Store) : StatementRef → Clauses
  | .bare _ => .bare
  | .select id => .select { st.select id with dialect := .null }
  | .insert id => .insert { st.insert id with dialect := .null }
  | .update id => .update { st.update id with dialect := .null }
  | .delete id => .delete { st.delete id with dialect := .null }

theorem kindName_clauses (st : Store) (r : StatementRef) :
    (st.clauses r).kindName = r.kindName := by
  cases r <;> rfl

theorem referencesIn_layout (st : Store) (r : StatementRef) :
    referencesIn (st.layout r) = st.references r ∨ ∃ cause, st.layout r = [.refused cause] := by
  cases r with
  | select id => exact .inl rfl
  | bare id => exact (st.clauses (.bare id)).referencesIn_layout
  | insert id => exact (st.clauses (.insert id)).referencesIn_layout
  | update id => exact (st.clauses (.update id)).referencesIn_layout
  | delete id => exact (st.clauses (.delete id)).referencesIn_layout

/-- A SELECT refers to another one. -/
def Refers (st : Store) (outer inner : SelectId) : Prop :=
  inner ∈ (st.select outer).references

/-- A statement refers to a SELECT, or to one that reaches it. -/
def Reaches (st : Store) (r : StatementRef) (id : SelectId) : Prop :=
  ∃ first ∈ st.references r, ReflTransGen st.Refers first id

/-- A statement reaches a SELECT that can reach itself. -/
def HasCycle (st : Store) (r : StatementRef) : Prop :=
  ∃ id, st.Reaches r id ∧ TransGen st.Refers id id

variable {st : Store}

theorem select_unknown {id : SelectId} (h : ¬ id.index < st.selects.length) :
    st.select id = {} := by
  rw [select, List.getD_eq_getElem?_getD, List.getElem?_eq_none (Nat.le_of_not_lt h),
    Option.getD_none]

theorem known_of_refers {outer inner : SelectId} (h : st.Refers outer inner) :
    outer.index < st.selects.length := by
  refine Decidable.byContradiction fun hunknown => ?_
  rw [Refers, select_unknown hunknown] at h
  cases h

/-- Induction on the SELECTs that one is not inside of, from the inner to the outer ones. -/
@[elab_as_elim]
theorem nesting_induct {motive : List SelectId → SelectId → Prop}
    (step : ∀ nesting id,
      (∀ inner, id ∉ nesting → st.Refers id inner → motive (id :: nesting) inner) →
        motive nesting id)
    (nesting : List SelectId) (id : SelectId) : motive nesting id :=
  step nesting id fun inner hfresh hrefers =>
    have := remaining_lt hfresh (known_of_refers hrefers)
    nesting_induct step (id :: nesting) inner
termination_by st.remaining nesting

/-! ## Unfolded SELECTs -/

theorem selectPieces_nested {nesting : List SelectId} {id : SelectId} (h : id ∈ nesting) :
    st.selectPieces nesting id = [.refused .nestedInItself] := by
  rw [selectPieces, dif_pos h]

theorem selectPieces_fresh {nesting : List SelectId} {id : SelectId} (h : id ∉ nesting) :
    st.selectPieces nesting id =
      unfolded (st.selectPieces (id :: nesting)) (st.select id).layout := by
  rw [selectPieces, dif_neg h]
  by_cases hknown : id.index < st.selects.length
  · rw [dif_pos hknown]
  · rw [dif_neg hknown, select_unknown hknown]
    rfl

/-- The SELECT that the clauses of a statement stand in, if it is one itself. -/
def own : StatementRef → List SelectId
  | .select id => [id]
  | _ => []

theorem pieces_layout (st : Store) (r : StatementRef) :
    st.pieces (st.layout r) = unfolded (st.selectPieces (own r)) (st.clauses r).layout := by
  cases r with
  | select id =>
      have hsingle : st.pieces [.subselect id] = st.selectPieces [] id := by
        rw [pieces, unfolded, Piece.unfolded]
        split
        · rfl
        · exact List.append_nil _
      rw [layout, hsingle, selectPieces_fresh List.not_mem_nil]
      rfl
  | _ => rfl

theorem refers_of_mem {outer inner : SelectId}
    (h : inner ∈ referencesIn (st.select outer).layout) : st.Refers outer inner := by
  rwa [Select.referencesIn_layout] at h

theorem mem_of_refers {outer inner : SelectId} (h : st.Refers outer inner) :
    inner ∈ referencesIn (st.select outer).layout := by
  rwa [Select.referencesIn_layout]

theorem selectPieces_congr {nesting : List SelectId} {id : SelectId} :
    {nesting' : List SelectId} →
    (∀ other, ReflTransGen st.Refers id other → (other ∈ nesting ↔ other ∈ nesting')) →
      st.selectPieces nesting id = st.selectPieces nesting' id := by
  induction nesting, id using st.nesting_induct with
  | step nesting id ih =>
      intro nesting' h
      by_cases hnested : id ∈ nesting
      · rw [selectPieces_nested hnested, selectPieces_nested ((h id .refl).mp hnested)]
      · rw [selectPieces_fresh hnested, selectPieces_fresh (mt (h id .refl).mpr hnested)]
        refine unfolded_congr _ fun inner hinner => ?_
        have hrefers := refers_of_mem hinner
        refine ih inner hnested hrefers fun other hother => ?_
        rw [List.mem_cons, List.mem_cons, h other (hother.head hrefers)]

/-! ## Cycles -/

/-- A SELECT that reaches no cycle can be unfolded: its references come to an end. -/
theorem acc_of_no_cycle {nesting : List SelectId} {id : SelectId}
    (h : ∀ other, ReflTransGen st.Refers id other →
      other ∉ nesting ∧ ¬ TransGen st.Refers other other) :
    Acc (Function.swap st.Refers) id := by
  induction nesting, id using st.nesting_induct with
  | step nesting id ih =>
      refine .intro id fun inner hrefers => ?_
      refine ih inner (h id .refl).1 hrefers fun other hother => ?_
      obtain ⟨hfresh, hcycle⟩ := h other (hother.head hrefers)
      refine ⟨fun hmem => ?_, hcycle⟩
      rcases List.mem_cons.mp hmem with rfl | hmem
      · exact hcycle (.head' hrefers hother)
      · exact hfresh hmem

theorem no_cycle_of_acc {id : SelectId} (h : Acc (Function.swap st.Refers) id) :
    ¬ TransGen st.Refers id id := by
  induction h with
  | intro id _ ih =>
      intro hcycle
      obtain ⟨inner, hrefers, hback⟩ := TransGen.head'_iff.mp hcycle
      exact ih inner hrefers (.tail' hback hrefers)

theorem acc_of_reaches {id other : SelectId} (h : Acc (Function.swap st.Refers) id)
    (hother : ReflTransGen st.Refers id other) : Acc (Function.swap st.Refers) other := by
  induction hother with
  | refl => exact h
  | tail _ hrefers ih => exact ih.inv hrefers

theorem not_hasCycle_iff {r : StatementRef} :
    ¬ st.HasCycle r ↔ ∀ first ∈ st.references r, Acc (Function.swap st.Refers) first := by
  constructor
  · intro h first hfirst
    have hfree (other : SelectId) (hother : ReflTransGen st.Refers first other) :
        other ∉ ([] : List SelectId) ∧ ¬ TransGen st.Refers other other :=
      ⟨List.not_mem_nil, fun hcycle => h ⟨other, ⟨first, hfirst, hother⟩, hcycle⟩⟩
    exact acc_of_no_cycle hfree
  · rintro h ⟨other, ⟨first, hfirst, hother⟩, hcycle⟩
    exact no_cycle_of_acc (acc_of_reaches (h first hfirst) hother) hcycle

end Store

end SqlComposer
