import Mathlib.Data.List.Induction
import SqlComposer.Store

/-!
# Refused calls

A refused call leaves every statement as it was, with one exception: a subselect becomes the source
of a SELECT even if the alias that is given with it is refused. Without such calls, a source that is
a subselect carries the alias that was accepted together with it.
-/

namespace SqlComposer

/-! ## Outcomes -/

theorem Outcome.ofChecked_refused {σ : Type} {before : σ} {checked : Except ClauseError σ}
    (h : (Outcome.ofChecked before checked).refusal.isSome) :
    (Outcome.ofChecked before checked).state = before := by
  cases checked with
  | ok after => cases h
  | error cause => rfl

theorem Outcome.ofChecked_preserves {σ : Type} {P : σ → Prop} {before : σ}
    {checked : Except ClauseError σ} (hbefore : P before)
    (hafter : ∀ after, checked = .ok after → P after) :
    P (Outcome.ofChecked before checked).state := by
  cases checked with
  | ok after => exact hafter after rfl
  | error cause => exact hbefore

theorem Outcome.ofChecked_keeps {σ α : Type} {P : σ → Prop} {before : σ} {f : α → σ}
    {checked : Except ClauseError α} (hbefore : P before) (hafter : ∀ a, P (f a)) :
    P (Outcome.ofChecked before (do return f (← checked))).state := by
  cases checked with
  | ok a => exact hafter a
  | error cause => exact hbefore

/-! ## Statements -/

namespace Select

/-- A SELECT with a subselect as its source, under the alias that it has already. -/
def strand (s : Select) (inner : SelectId) : Select :=
  { s with source := some (.subselect inner) }

/-- The subselect that a call makes the source although the alias given with it is refused. -/
def Call.unaliased? (own : SelectId) : Call → Option SelectId
  | .source table sourceAlias =>
    match table.select?, sourceAlias.visibleName? with
    | some inner, none => if inner = own then none else some inner
    | _, _ => none
  | _ => none

section Source

variable {own inner : SelectId} {table sourceAlias : Value} (s : Select)

theorem setSource_own (h : table.select? = some own) :
    s.setSource own table sourceAlias = ⟨s, some .ownSource⟩ := by
  simp only [setSource, h, if_true]

theorem setSource_unaliased (h : table.select? = some inner) (hown : inner ≠ own)
    (halias : sourceAlias.visibleName? = none) :
    s.setSource own table sourceAlias =
      ⟨s.strand inner, some (.nameExpected "Subselect alias" sourceAlias)⟩ := by
  simp only [setSource, h, if_neg hown, nameOf, halias]
  rfl

theorem setSource_aliased {name : Name} (h : table.select? = some inner) (hown : inner ≠ own)
    (halias : sourceAlias.visibleName? = some name) :
    s.setSource own table sourceAlias =
      ⟨{ s with source := some (.subselect inner), sourceAlias := some name }, none⟩ := by
  simp only [setSource, h, if_neg hown, nameOf, halias]
  rfl

theorem setSource_table (h : table.select? = none) :
    s.setSource own table sourceAlias =
      .ofChecked s do
        let name ← nameOf "Table name" table
        return { s with source := some (.table name), sourceAlias := none } := by
  simp only [setSource, h]

end Source

theorem call_refused {own : SelectId} {s : Select} {c : Call}
    (h : (s.call own c).refusal.isSome) :
    (s.call own c).state =
      match c.unaliased? own with
      | some inner => s.strand inner
      | none => s := by
  cases c with
  | distinct enabled => cases h
  | forUpdate enabled => cases h
  | source table sourceAlias =>
      simp only [call] at h ⊢
      cases hselect : table.select? with
      | none =>
          rw [setSource_table s hselect] at h ⊢
          simp only [Call.unaliased?, hselect]
          exact Outcome.ofChecked_refused h
      | some inner =>
          by_cases hown : inner = own
          · subst hown
            cases halias : sourceAlias.visibleName? <;>
              simp [setSource_own s hselect, Call.unaliased?, hselect, halias]
          · cases halias : sourceAlias.visibleName? with
            | none =>
                simp only [setSource_unaliased s hselect hown halias, Call.unaliased?, hselect,
                  halias, if_neg hown]
            | some name =>
                rw [setSource_aliased s hselect hown halias] at h
                cases h
  | _ => exact Outcome.ofChecked_refused h

def SameSource (s after : Select) : Prop :=
  after.source = s.source ∧ after.sourceAlias = s.sourceAlias

/-- What a call that is not refused for its alias does to the source: nothing, or a table becomes
the source, or a subselect together with the alias that is given with it. -/
theorem call_source (own : SelectId) (s : Select) {c : Call} (h : c.unaliased? own = none) :
    SameSource s (s.call own c).state ∨ (∃ name, (s.call own c).state.source = some (.table name)) ∨
      ∃ table sourceAlias inner name, c = .source table sourceAlias ∧ table.select? = some inner ∧
        sourceAlias.visibleName? = some name ∧
        (s.call own c).state.source = some (.subselect inner) ∧
        (s.call own c).state.sourceAlias = some name := by
  cases c with
  | distinct enabled => exact .inl ⟨rfl, rfl⟩
  | forUpdate enabled => exact .inl ⟨rfl, rfl⟩
  | source table sourceAlias =>
      simp only [call]
      cases hselect : table.select? with
      | none =>
          rw [setSource_table s hselect]
          cases nameOf "Table name" table with
          | ok name => exact .inr (.inl ⟨name, rfl⟩)
          | error cause => exact .inl ⟨rfl, rfl⟩
      | some inner =>
          by_cases hown : inner = own
          · subst hown
            rw [setSource_own s hselect]
            exact .inl ⟨rfl, rfl⟩
          · cases halias : sourceAlias.visibleName? with
            | none =>
                simp only [Call.unaliased?, hselect, halias, if_neg hown] at h
                cases h
            | some name =>
                rw [setSource_aliased s hselect hown halias]
                exact .inr (.inr ⟨table, sourceAlias, inner, name, rfl, hselect, halias, rfl, rfl⟩)
  | _ =>
      exact .inl <| Outcome.ofChecked_keeps
        (P := SameSource s) ⟨rfl, rfl⟩ fun _ => ⟨rfl, rfl⟩

end Select

theorem Insert.call_refused {s : Insert} {c : Insert.Call} (h : (s.call c).refusal.isSome) :
    (s.call c).state = s := by
  cases c <;> exact Outcome.ofChecked_refused h

theorem Update.call_refused {s : Update} {c : Update.Call} (h : (s.call c).refusal.isSome) :
    (s.call c).state = s := by
  cases c <;> exact Outcome.ofChecked_refused h

theorem Delete.call_refused {s : Delete} {c : Delete.Call} (h : (s.call c).refusal.isSome) :
    (s.call c).state = s := by
  cases c <;> exact Outcome.ofChecked_refused h

/-! ## Stores -/

namespace Store

/-- The SELECT whose source a call changes, and to which subselect, although the alias given with it
is refused. -/
def Call.unaliased? : Call → Option (SelectId × SelectId)
  | .select id c => (c.unaliased? id).map (id, ·)
  | _ => none

/-- Whether a call gives a SELECT a new source although the alias given with it is refused. -/
def Call.StrandsSource (st : Store) (c : Call) : Prop :=
  ∃ id inner, c.unaliased? = some (id, inner) ∧ id.index < st.selects.length ∧
    (st.select id).source ≠ some (.subselect inner)

/-- The store after calls, whether or not they are refused. -/
def afterCalls (st : Store) (calls : List Call) : Store :=
  calls.foldl (fun st c => (st.call c).state) st

theorem set_getD {α : Type} (as : List α) (i : Nat) (d : α) : as.set i (as.getD i d) = as := by
  by_cases h : i < as.length
  · simp only [List.getD_eq_getElem?_getD, List.getElem?_eq_getElem h, Option.getD_some,
      List.set_getElem_self]
  · rw [List.set_eq_of_length_le (Nat.le_of_not_lt h)]

theorem select_setSelect (st : Store) {id : SelectId} (h : id.index < st.selects.length)
    (s : Select) : (st.setSelect id s).select id = s := by
  simp [select, setSelect, h]

theorem select_setSelect_of_ne (st : Store) {id other : SelectId} (h : id ≠ other) (s : Select) :
    (st.setSelect id s).select other = st.select other := by
  have hindex : id.index ≠ other.index := fun heq => h (by cases id; cases other; cases heq; rfl)
  simp [select, setSelect, hindex]

theorem setSelect_select (st : Store) (id : SelectId) : st.setSelect id (st.select id) = st := by
  simp only [setSelect, select, set_getD]

theorem setSelect_of_unknown (st : Store) {id : SelectId} (h : ¬ id.index < st.selects.length)
    (s : Select) : st.setSelect id s = st := by
  simp only [setSelect, List.set_eq_of_length_le (Nat.le_of_not_lt h)]

theorem call_refused {st : Store} {c : Call} (h : (st.call c).refusal.isSome) :
    (st.call c).state =
      match c.unaliased? with
      | some (id, inner) => st.setSelect id ((st.select id).strand inner)
      | none => st := by
  cases c with
  | select id c =>
      simp only [call, Call.unaliased?] at h ⊢
      rw [Select.call_refused h]
      cases c.unaliased? id with
      | some inner => rfl
      | none => exact st.setSelect_select id
  | insert id c =>
      simp only [call, Call.unaliased?] at h ⊢
      rw [Insert.call_refused h]
      simp only [setInsert, insert, set_getD]
  | update id c =>
      simp only [call, Call.unaliased?] at h ⊢
      rw [Update.call_refused h]
      simp only [setUpdate, update, set_getD]
  | delete id c =>
      simp only [call, Call.unaliased?] at h ⊢
      rw [Delete.call_refused h]
      simp only [setDelete, delete, set_getD]

theorem call_refused_iff {st : Store} {c : Call} (h : (st.call c).refusal.isSome) :
    (st.call c).state = st ↔ ¬ c.StrandsSource st := by
  rw [call_refused h]
  cases hc : c.unaliased? with
  | none => simp [Call.StrandsSource, hc]
  | some swap =>
      obtain ⟨id, inner⟩ := swap
      constructor
      · rintro hkept ⟨id', inner', heq, hknown, hsource⟩
        cases hc.symm.trans heq
        have hselect := select_setSelect st hknown ((st.select id).strand inner)
        rw [show st.setSelect id _ = st from hkept] at hselect
        exact hsource (congrArg Select.source hselect)
      · intro hkept
        by_cases hknown : id.index < st.selects.length
        · have hsource : (st.select id).source = some (.subselect inner) := by
            by_contra hsource
            exact hkept ⟨id, inner, hc, hknown, hsource⟩
          have hstrand : (st.select id).strand inner = st.select id := by
            rw [Select.strand, ← hsource]
          simp only [hstrand, setSelect_select]
        · exact setSelect_of_unknown st hknown _

/-! ## Runs -/

/-- If the source of a SELECT is a subselect, its alias is one that has been given together with
that subselect in one of the calls, and is not blank. -/
def Sourced (st : Store) (calls : List Call) (id : SelectId) : Prop :=
  ∀ inner, (st.select id).source = some (.subselect inner) →
    ∃ table sourceAlias name, Call.select id (.source table sourceAlias) ∈ calls ∧
      table.select? = some inner ∧ sourceAlias.visibleName? = some name ∧
      (st.select id).sourceAlias = some name

theorem Sourced.mono {st : Store} {calls more : List Call} {id : SelectId}
    (h : st.Sourced calls id) : st.Sourced (calls ++ more) id := by
  intro inner hsource
  obtain ⟨table, sourceAlias, name, hmem, hrest⟩ := h inner hsource
  exact ⟨table, sourceAlias, name, List.mem_append_left _ hmem, hrest⟩

theorem Sourced.call {st : Store} {calls : List Call} {id : SelectId} (h : st.Sourced calls id)
    (c : Call) (hc : ∀ inner, c.unaliased? ≠ some (id, inner)) :
    (st.call c).state.Sourced (calls ++ [c]) id := by
  cases c with
  | select id' c =>
      by_cases hid : id' = id
      · subst hid
        have hnone : c.unaliased? id' = none := by
          cases heq : c.unaliased? id' with
          | none => rfl
          | some inner =>
              have hswap : (Call.select id' c).unaliased? = some (id', inner) := by
                simp only [Call.unaliased?, heq, Option.map_some]
              exact (hc inner hswap).elim
        by_cases hknown : id'.index < st.selects.length
        · have hselect := select_setSelect st hknown ((st.select id').call id' c).state
          intro inner hsource
          simp only [Store.call, hselect] at hsource ⊢
          rcases Select.call_source id' (st.select id') hnone with hsame | ⟨name, htable⟩ |
            ⟨table, sourceAlias, inner', name, rfl, hinner, hname, hset, halias⟩
          · rw [hsame.1] at hsource
            rw [hsame.2]
            exact h.mono inner hsource
          · cases htable.symm.trans hsource
          · cases hset.symm.trans hsource
            exact ⟨table, sourceAlias, name, List.mem_append_right _ (List.mem_singleton.mpr rfl),
              hinner, hname, halias⟩
        · simp only [Store.call, setSelect_of_unknown st hknown]
          exact h.mono
      · have hsame := select_setSelect_of_ne st hid ((st.select id').call id' c).state
        have hmono : st.Sourced (calls ++ [Call.select id' c]) id := h.mono
        unfold Sourced at hmono ⊢
        simpa only [Store.call, hsame] using hmono
  | _ => exact h.mono

/-- A run keeps sources with their aliases, as long as no call is refused for an alias. -/
theorem sourced_afterCalls {st : Store} {id : SelectId}
    (hfresh : ∀ inner, (st.select id).source ≠ some (.subselect inner)) (calls : List Call)
    (hcalls : ∀ c ∈ calls, ∀ inner, c.unaliased? ≠ some (id, inner)) :
    (st.afterCalls calls).Sourced calls id := by
  induction calls using List.reverseRecOn with
  | nil => exact fun inner hsource => (hfresh inner hsource).elim
  | append_singleton front c ih =>
      have hfront := ih fun c hc => hcalls c (List.mem_append_left _ hc)
      have hlast := hcalls c (List.mem_append_right _ (List.mem_singleton.mpr rfl))
      rw [afterCalls, List.foldl_append]
      exact hfront.call c hlast

/-- Whatever calls have been made, a refused call leaves everything as it was unless it gives a
SELECT a new subselect as its source under an alias that is refused; then it changes that source and
nothing else. A SELECT that has had no such call has its source under the alias given with it. -/
theorem refused_calls (st : Store) (calls : List Call) :
    (∀ c, ((st.afterCalls calls).call c).refusal.isSome →
      ((((st.afterCalls calls).call c).state = st.afterCalls calls ↔
          ¬ c.StrandsSource (st.afterCalls calls)) ∧
        ∀ id inner, c.unaliased? = some (id, inner) →
          ((st.afterCalls calls).call c).state =
            (st.afterCalls calls).setSelect id
              (((st.afterCalls calls).select id).strand inner))) ∧
      ∀ id, (∀ inner, (st.select id).source ≠ some (.subselect inner)) →
        (∀ c ∈ calls, ∀ inner, c.unaliased? ≠ some (id, inner)) →
          (st.afterCalls calls).Sourced calls id := by
  refine ⟨fun c h => ⟨call_refused_iff h, fun id inner hc => ?_⟩,
    fun id hfresh hcalls => sourced_afterCalls hfresh calls hcalls⟩
  rw [call_refused h, hc]

/-- Two SELECTs that have just been started. -/
def twoSelects : Store where
  selects := [{}, {}]

/-- A count that is refused leaves a SELECT with the source and the alias that it has. -/
theorem refused_calls_aliased :
    let calls := [Call.select ⟨1⟩ (.source (.statement (.select ⟨0⟩)) (.ofText "s"))]
    let c := Call.select ⟨1⟩ (.limit (.ofText "ten"))
    ((twoSelects.afterCalls calls).call c).refusal.isSome ∧
      ((twoSelects.afterCalls calls).call c).state = twoSelects.afterCalls calls ∧
        (twoSelects.afterCalls calls).Sourced calls ⟨1⟩ := by
  intro calls c
  have hrefused : ((twoSelects.afterCalls calls).call c).refusal.isSome := rfl
  obtain ⟨hstate, hsourced⟩ := refused_calls twoSelects calls
  refine ⟨hrefused, (hstate c hrefused).1.mpr ?_, hsourced ⟨1⟩ ?_ ?_⟩
  · rintro ⟨id, inner, hc, -⟩
    cases hc
  · intro inner hsource
    cases hsource
  · intro c hc inner hunaliased
    cases List.mem_singleton.mp hc
    have hnone : Call.unaliased? (.select ⟨1⟩ (.source (.statement (.select ⟨0⟩)) (.ofText "s"))) =
      none := by decide
    cases hnone.symm.trans hunaliased

/-- A subselect without an alias is refused as a source, and is the source from then on. -/
theorem source_kept_after_refusal :
    let c := Call.select ⟨1⟩ (.source (.statement (.select ⟨0⟩)) .null)
    let after := (twoSelects.call c).state
    (twoSelects.call c).refusal.isSome ∧ after ≠ twoSelects ∧
      (after.select ⟨1⟩).source = some (.subselect ⟨0⟩) ∧
      (after.select ⟨1⟩).sourceAlias = none := by
  refine ⟨rfl, fun h => ?_, rfl, rfl⟩
  have hsource := congrArg (fun st : Store => (st.select ⟨1⟩).source) h
  cases hsource

end Store

end SqlComposer
