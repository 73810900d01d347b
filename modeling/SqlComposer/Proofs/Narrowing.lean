import SqlComposer.Display
import SqlComposer.Proofs.Independence

/-!
# Conditions that stay

The condition that picks the rows of a statement only ever grows: each call adds a conjunct to it,
and no call takes one away.
-/

namespace SqlComposer

/-! ## Conjuncts -/

/-- One of the conditions that a clause has been narrowed by. -/
inductive Condition.IsConjunct (c : Condition) : Condition → Prop
  | whole : IsConjunct c c
  | earlier {prior last : Condition} : IsConjunct c prior →
      IsConjunct c (.logical .and (.tuple [.condition prior, .condition last] 0) 0)
  | last {prior : Condition} :
      IsConjunct c (.logical .and (.tuple [.condition prior, .condition c] 0) 0)

theorem Condition.isConjunct_narrow (prior : Option Condition) (c : Condition) :
    c.IsConjunct (narrow prior c) := by
  cases prior with
  | none => exact .whole
  | some prior => exact .last

/-- A clause is as it was, or narrowed by one more condition. -/
def Condition.Extends (before after : Option Condition) : Prop :=
  after = before ∨ ∃ c, after = some (narrow before c)

theorem Condition.IsConjunct.extends {c whole : Condition} {after : Option Condition}
    (h : c.IsConjunct whole) (hafter : Extends (some whole) after) :
    ∃ more, after = some more ∧ c.IsConjunct more := by
  rcases hafter with rfl | ⟨last, rfl⟩
  · exact ⟨whole, rfl, h⟩
  · exact ⟨_, rfl, .earlier h⟩

/-! ## Changes -/

theorem Select.rows_changed (s : Select) (a : Change) :
    Condition.Extends s.rows (s.changed a).rows := by
  cases a with
  | rows c => exact .inr ⟨c, rfl⟩
  | _ => exact .inl rfl

theorem Update.rows_changed (s : Update) (a : Change) :
    Condition.Extends s.rows (s.changed a).rows := by
  cases a with
  | rows c => exact .inr ⟨c, rfl⟩
  | _ => exact .inl rfl

theorem Delete.rows_changed (s : Delete) (a : Change) :
    Condition.Extends s.rows (s.changed a).rows := by
  cases a with
  | rows c => exact .inr ⟨c, rfl⟩
  | _ => exact .inl rfl

namespace Store

/-- The condition that picks the rows of a statement. -/
def rows? (st : Store) : StatementRef → Option Condition
  | .select id => (st.select id).rows
  | .update id => (st.update id).rows
  | .delete id => (st.delete id).rows
  | .bare _ | .insert _ => none

/-- The statement whose rows a call narrows, and the condition that it narrows them by. -/
def Call.narrows? : Call → Option (StatementRef × Condition)
  | .select id (.rows argument value) =>
    (Condition.ofCall .rows argument value).toOption.map (.select id, ·)
  | .update id (.rows argument value) =>
    (Condition.ofCall .rows argument value).toOption.map (.update id, ·)
  | .delete id (.rows argument value) =>
    (Condition.ofCall .rows argument value).toOption.map (.delete id, ·)
  | _ => none

theorem extends_stepAt {σ β : Type} {changed : σ → β → σ} {P : β → Prop} {f : σ → Outcome σ}
    (hf : Changes changed P f) {part : σ → Option Condition}
    (hpart : ∀ s b, Condition.Extends (part s) (part (changed s b))) {d : σ} {i : Nat}
    {items : List σ} (haccepted : (stepAt d i f items).refusal = none) (j : Nat) :
    Condition.Extends (part (items.getD j d)) (part ((stepAt d i f items).state.getD j d)) := by
  obtain ⟨b, -, hf⟩ := hf.none haccepted
  simp only [stepAt, hf, List.getD_eq_getElem?_getD]
  by_cases hplace : i = j
  · subst hplace
    by_cases hi : i < items.length
    · rw [List.getElem?_set_self hi]
      exact hpart _ b
    · rw [List.set_eq_of_length_le (Nat.le_of_not_lt hi)]
      exact .inl rfl
  · rw [List.getElem?_set_ne hplace]
    exact .inl rfl

variable {st : Store}

theorem rows_call {c : Call} (hc : (st.call c).refusal = none) (r : StatementRef) :
    Condition.Extends (st.rows? r) ((st.call c).state.rows? r) := by
  cases c with
  | select id c =>
      cases r with
      | select id' =>
          exact extends_stepAt (Select.changes_call id c) Select.rows_changed hc id'.index
      | _ => exact .inl rfl
  | insert id c => cases r <;> exact .inl rfl
  | update id c =>
      cases r with
      | update id' => exact extends_stepAt (Update.changes_call c) Update.rows_changed hc id'.index
      | _ => exact .inl rfl
  | delete id c =>
      cases r with
      | delete id' => exact extends_stepAt (Delete.changes_call c) Delete.rows_changed hc id'.index
      | _ => exact .inl rfl

theorem getD_set {σ : Type} {items : List σ} {i : Nat} (hi : i < items.length) (a d : σ) :
    (items.set i a).getD i d = a := by
  rw [List.getD_eq_getElem?_getD, List.getElem?_set_self hi, Option.getD_some]

theorem refs_call (c : Call) : (st.call c).state.refs = st.refs := by
  cases c <;> simp [refs, call, setSelect, setInsert, setUpdate, setDelete]

theorem afterCall_narrowed {σ : Type} {s : σ} {clause : ConditionClause}
    {prior : Option Condition} {argument : Value} {value : Option Value} {condition : Condition}
    (h : (Condition.ofCall clause argument value).toOption = some condition)
    (set : Option Condition → σ) :
    Outcome.ofChecked s (do return set (← Condition.afterCall clause prior argument value)) =
      ⟨set (some (Condition.narrow prior condition)), none⟩ := by
  rw [Condition.afterCall_bind]
  cases hchecked : Condition.ofCall clause argument value with
  | ok c =>
      rw [hchecked] at h
      cases h
      rfl
  | error cause =>
      rw [hchecked] at h
      cases h

theorem rows_narrowed {c : Call} {r : StatementRef} {condition : Condition}
    (h : c.narrows? = some (r, condition)) (hr : r ∈ st.refs) :
    (st.call c).state.rows? r = some (Condition.narrow (st.rows? r) condition) := by
  unfold Call.narrows? at h
  split at h
  · rename_i id argument value
    obtain ⟨_, hchecked, heq⟩ := Option.map_eq_some_iff.mp h
    cases heq
    obtain ⟨i, hi, rfl⟩ : ∃ i, i < st.selects.length ∧ (⟨i⟩ : SelectId) = id := by
      simpa [refs] using hr
    simp only [rows?, call, Select.call, setSelect, select, getD_set hi]
    exact congrArg (·.state.rows) <|
      afterCall_narrowed hchecked fun rows => { st.select ⟨i⟩ with rows }
  · rename_i id argument value
    obtain ⟨_, hchecked, heq⟩ := Option.map_eq_some_iff.mp h
    cases heq
    obtain ⟨i, hi, rfl⟩ : ∃ i, i < st.updates.length ∧ (⟨i⟩ : UpdateId) = id := by
      simpa [refs] using hr
    simp only [rows?, call, Update.call, setUpdate, update, getD_set hi]
    exact congrArg (·.state.rows) <|
      afterCall_narrowed hchecked fun rows => { st.update ⟨i⟩ with rows }
  · rename_i id argument value
    obtain ⟨_, hchecked, heq⟩ := Option.map_eq_some_iff.mp h
    cases heq
    obtain ⟨i, hi, rfl⟩ : ∃ i, i < st.deletes.length ∧ (⟨i⟩ : DeleteId) = id := by
      simpa [refs] using hr
    simp only [rows?, call, Delete.call, setDelete, delete, getD_set hi]
    exact congrArg (·.state.rows) <|
      afterCall_narrowed hchecked fun rows => { st.delete ⟨i⟩ with rows }
  · cases h

/-! ## Runs -/

theorem Leads.isConjunct {after : Store} {calls : List Call} {r : StatementRef}
    {condition whole : Condition} (h : st.Leads calls after) (hwhole : st.rows? r = some whole)
    (hcondition : condition.IsConjunct whole) :
    ∃ more, after.rows? r = some more ∧ condition.IsConjunct more := by
  induction calls generalizing st whole with
  | nil =>
      obtain rfl : after = st := h
      exact ⟨whole, hwhole, hcondition⟩
  | cons c calls ih =>
      have hextends := rows_call h.1 r
      rw [hwhole] at hextends
      obtain ⟨more, hmore, hkept⟩ := hcondition.extends hextends
      exact ih h.2 hmore hkept

/-- Whatever is called before and after, the condition of an accepted call stays among those that
pick the rows of its statement. -/
theorem Leads.isConjunct_of_mem {after : Store} {calls : List Call} (h : st.Leads calls after)
    {c : Call} (hc : c ∈ calls) {r : StatementRef} {condition : Condition}
    (hnarrows : c.narrows? = some (r, condition)) (hr : r ∈ st.refs) :
    ∃ whole, after.rows? r = some whole ∧ condition.IsConjunct whole := by
  induction calls generalizing st with
  | nil => cases hc
  | cons first calls ih =>
      rcases List.mem_cons.mp hc with rfl | hc
      · exact h.2.isConjunct (rows_narrowed hnarrows hr) (Condition.isConjunct_narrow _ _)
      · exact ih h.2 hc ((refs_call first).symm ▸ hr)

end Store

end SqlComposer
