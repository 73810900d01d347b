import SqlComposer.Proofs.Refusal

/-!
# Independent calls

An accepted call changes one clause of one statement, in a way that no other clause has a part in.
So calls on different clauses may change places, and a clause that is set forgets what was set
before.
-/

namespace SqlComposer

/-! ## Steps -/

section Steps

variable {σ : Type}

/-- Where both steps are accepted one after the other, they are accepted the other way round too,
and come to the same. -/
def Swaps (f g : σ → Outcome σ) : Prop :=
  ∀ s, (f s).refusal = none → (g (f s).state).refusal = none →
    (g s).refusal = none ∧ (f (g s).state).refusal = none ∧
      (f (g s).state).state = (g (f s).state).state

/-- Where the second step is accepted after the first, it comes to the same without it. -/
def Overrides (f g : σ → Outcome σ) : Prop :=
  ∀ s, (f s).refusal = none → (g (f s).state).refusal = none → g s = g (f s).state

/-- A step on the item at one place of a list, and on no item if the list ends before. -/
def stepAt (d : σ) (i : Nat) (f : σ → Outcome σ) (items : List σ) : Outcome (List σ) :=
  ⟨items.set i (f (items.getD i d)).state, (f (items.getD i d)).refusal⟩

variable {d : σ} {f g : σ → Outcome σ} {i j : Nat}

theorem Swaps.stepAt (h : i = j → Swaps f g) : Swaps (stepAt d i f) (stepAt d j g) := by
  intro items hf hg
  by_cases hplace : i = j
  · subst hplace
    simp only [SqlComposer.stepAt] at hf hg ⊢
    by_cases hi : i < items.length
    · simp only [List.getD_eq_getElem?_getD, List.getElem?_set_self hi, Option.getD_some]
        at hf hg ⊢
      obtain ⟨hg', hf', hstate⟩ := h rfl _ hf hg
      simp only [List.set_set]
      exact ⟨hg', hf', congrArg (items.set i) hstate⟩
    · have hnone (a : σ) : items.set i a = items := List.set_eq_of_length_le (Nat.le_of_not_lt hi)
      simp only [hnone] at hf hg ⊢
      exact ⟨hg, hf, trivial⟩
  · simp only [SqlComposer.stepAt, List.getD_eq_getElem?_getD, List.getElem?_set_ne hplace,
      List.getElem?_set_ne (Ne.symm hplace)] at hf hg ⊢
    exact ⟨hg, hf, List.set_comm _ _ (Ne.symm hplace)⟩

theorem Overrides.stepAt (h : Overrides f g) : Overrides (stepAt d i f) (stepAt d i g) := by
  intro items hf hg
  simp only [SqlComposer.stepAt] at hf hg ⊢
  by_cases hi : i < items.length
  · simp only [List.getD_eq_getElem?_getD, List.getElem?_set_self hi, Option.getD_some,
      List.set_set] at hf hg ⊢
    rw [h _ hf hg]
  · have hnone (a : σ) : items.set i a = items := List.set_eq_of_length_le (Nat.le_of_not_lt hi)
    simp only [hnone]

/-- A step on a part of something. -/
def stepWithin {τ : Type} (get : τ → σ) (set : τ → σ → τ) (f : σ → Outcome σ) (t : τ) : Outcome τ :=
  ⟨set t (f (get t)).state, (f (get t)).refusal⟩

section Within

variable {τ : Type} {get : τ → σ} {set : τ → σ → τ} (hget : ∀ t s, get (set t s) = s)
  (hset : ∀ t s s', set (set t s) s' = set t s')
include hget hset

theorem Swaps.within (h : Swaps f g) : Swaps (stepWithin get set f) (stepWithin get set g) := by
  intro t hf hg
  simp only [stepWithin, hget] at hf hg ⊢
  obtain ⟨hg', hf', hstate⟩ := h _ hf hg
  simp only [hset]
  exact ⟨hg', hf', congrArg (set t) hstate⟩

theorem Overrides.within (h : Overrides f g) :
    Overrides (stepWithin get set f) (stepWithin get set g) := by
  intro t hf hg
  simp only [stepWithin, hget] at hf hg ⊢
  rw [h _ hf hg, hset]

end Within

end Steps

section Changes

variable {σ β : Type} {changed : σ → β → σ}

/-- A step is refused in every state, or it makes one and the same change in all of them, of which
`P` holds. -/
def Changes (changed : σ → β → σ) (P : β → Prop) (f : σ → Outcome σ) : Prop :=
  (∀ s, (f s).refusal.isSome) ∨ ∃ b, P b ∧ ∀ s, f s = ⟨changed s b, none⟩

theorem Changes.ofChecked {α : Type} {P : β → Prop} {f : σ → Outcome σ}
    (checked : Except ClauseError α) (change : α → β) (hchange : ∀ a, P (change a))
    (hf : ∀ s, f s = .ofChecked s (do return changed s (change (← checked)))) :
    Changes changed P f := by
  cases checked with
  | error cause => exact .inl fun s => hf s ▸ rfl
  | ok a => exact .inr ⟨change a, hchange a, hf⟩

theorem Changes.none {P : β → Prop} {f : σ → Outcome σ} (h : Changes changed P f) {s : σ}
    (hs : (f s).refusal = none) : ∃ b, P b ∧ ∀ s, f s = ⟨changed s b, .none⟩ :=
  h.resolve_left fun hall => by
    have hsome := hall s
    rw [hs] at hsome
    cases hsome

variable {P Q : β → Prop} {f g : σ → Outcome σ}

theorem Changes.swaps (hf : Changes changed P f) (hg : Changes changed Q g)
    (h : ∀ a b, P a → Q b → ∀ s, changed (changed s a) b = changed (changed s b) a) :
    Swaps f g := by
  intro s hs hs'
  obtain ⟨a, ha, hf⟩ := hf.none hs
  obtain ⟨b, hb, hg⟩ := hg.none hs'
  simp only [hf, hg, h a b ha hb, and_self]

theorem Changes.overrides (hf : Changes changed P f) (hg : Changes changed Q g)
    (h : ∀ a b, P a → Q b → ∀ s, changed (changed s a) b = changed s b) : Overrides f g := by
  intro s hs hs'
  obtain ⟨a, ha, hf⟩ := hf.none hs
  obtain ⟨b, hb, hg⟩ := hg.none hs'
  simp only [hf, hg, h a b ha hb]

end Changes

theorem Condition.afterCall_bind {σ : Type} {s : σ} {clause : ConditionClause}
    {prior : Option Condition} {argument : Value} {value : Option Value}
    (set : Option Condition → σ) :
    Outcome.ofChecked s (do return set (← afterCall clause prior argument value)) =
      .ofChecked s (do return set (some (narrow prior (← ofCall clause argument value)))) := by
  unfold afterCall
  cases ofCall clause argument value <;> rfl

/-! ## SELECT -/

namespace Select

/-- The clauses that calls on a SELECT change. A source has its alias with it. -/
inductive Clause where
  | columns
  | distinct
  | source
  | joins
  | rows
  | grouping
  | groups
  | order
  | limit
  | offset
  | forUpdate
deriving DecidableEq

/-- Whether calls add to a clause and never take anything away. -/
def Clause.accumulates : Clause → Bool
  | .joins | .rows | .groups => true
  | _ => false

def Call.clause : Call → Clause
  | .columns _ => .columns
  | .distinct _ => .distinct
  | .source _ _ => .source
  | .join _ _ _ => .joins
  | .rows _ _ => .rows
  | .grouping _ => .grouping
  | .groups _ _ => .groups
  | .order _ => .order
  | .limit _ => .limit
  | .offset _ => .offset
  | .forUpdate _ => .forUpdate

/-- What an accepted call has checked. -/
inductive Change where
  | columns (columns : List Column)
  | distinct (enabled : Value)
  | source (source : Source) (sourceAlias : Option Name)
  | join (join : Join)
  | rows (condition : Condition)
  | grouping (columns : List Column)
  | groups (condition : Condition)
  | order (columns : List Column)
  | limit (count : Option Nat)
  | offset (count : Option Nat)
  | forUpdate (enabled : Value)

def Change.clause : Change → Clause
  | .columns _ => .columns
  | .distinct _ => .distinct
  | .source _ _ => .source
  | .join _ => .joins
  | .rows _ => .rows
  | .grouping _ => .grouping
  | .groups _ => .groups
  | .order _ => .order
  | .limit _ => .limit
  | .offset _ => .offset
  | .forUpdate _ => .forUpdate

/-- A SELECT after a change. -/
def changed (s : Select) : Change → Select
  | .columns columns => { s with columns }
  | .distinct enabled => { s with distinct := enabled }
  | .source source sourceAlias => { s with source := some source, sourceAlias }
  | .join join => { s with joins := s.joins ++ [join] }
  | .rows condition => { s with rows := some (Condition.narrow s.rows condition) }
  | .grouping columns => { s with grouping := columns }
  | .groups condition => { s with groups := some (Condition.narrow s.groups condition) }
  | .order columns => { s with order := columns }
  | .limit count => { s with limit := count }
  | .offset count => { s with offset := count }
  | .forUpdate enabled => { s with forUpdate := enabled }

theorem changed_comm {a b : Change} (h : a.clause ≠ b.clause) (s : Select) :
    (s.changed a).changed b = (s.changed b).changed a := by
  cases a <;> cases b <;> first | rfl | exact absurd rfl h

theorem changed_override {a b : Change} (h : a.clause = b.clause)
    (hset : b.clause.accumulates = false) (s : Select) :
    (s.changed a).changed b = s.changed b := by
  cases a <;> cases b <;> first | rfl | (cases h <;> cases hset)

/-- Whether a call is accepted, and what it then does, depends on nothing but the call and the
number of its statement. -/
theorem changes_call (own : SelectId) (c : Call) :
    Changes changed (fun a => a.clause = c.clause) (call own · c) := by
  cases c with
  | columns arguments => exact Changes.ofChecked _ Change.columns (fun _ => rfl) fun _ => rfl
  | distinct enabled => exact .inr ⟨.distinct enabled, rfl, fun _ => rfl⟩
  | source table sourceAlias =>
      cases hselect : table.select? with
      | none =>
          refine Changes.ofChecked (nameOf "Table name" table)
            (fun name => Change.source (.table name) none) (fun _ => rfl) fun s => ?_
          exact setSource_table s hselect
      | some inner =>
          by_cases hown : inner = own
          · subst hown
            exact .inl fun s => congrArg (·.refusal.isSome) (setSource_own s hselect)
          · cases halias : sourceAlias.visibleName? with
            | none =>
                exact .inl fun s =>
                  congrArg (·.refusal.isSome) (setSource_unaliased s hselect hown halias)
            | some name =>
                exact .inr ⟨.source (.subselect inner) (some name), rfl, fun s =>
                  setSource_aliased s hselect hown halias⟩
  | join table terms kind =>
      exact Changes.ofChecked _ Change.join (fun _ => rfl) fun _ => rfl
  | rows condition value =>
      refine Changes.ofChecked (Condition.ofCall .rows condition value) Change.rows
        (fun _ => rfl) fun s => ?_
      exact Condition.afterCall_bind fun rows => { s with rows }
  | grouping arguments =>
      exact Changes.ofChecked _ Change.grouping (fun _ => rfl) fun _ => rfl
  | groups condition value =>
      refine Changes.ofChecked (Condition.ofCall .groups condition value) Change.groups
        (fun _ => rfl) fun s => ?_
      exact Condition.afterCall_bind fun groups => { s with groups }
  | order arguments => exact Changes.ofChecked _ Change.order (fun _ => rfl) fun _ => rfl
  | limit count => exact Changes.ofChecked _ Change.limit (fun _ => rfl) fun _ => rfl
  | offset count => exact Changes.ofChecked _ Change.offset (fun _ => rfl) fun _ => rfl
  | forUpdate enabled => exact .inr ⟨.forUpdate enabled, rfl, fun _ => rfl⟩

end Select

/-! ## UPDATE -/

namespace Update

/-- The clauses that calls on an UPDATE change. -/
inductive Clause where
  | table
  | assignments
  | rows
  | returning
deriving DecidableEq

def Clause.accumulates : Clause → Bool
  | .rows => true
  | _ => false

def Call.clause : Call → Clause
  | .table _ => .table
  | .assignments _ => .assignments
  | .rows _ _ => .rows
  | .returning _ => .returning

/-- What an accepted call has checked. -/
inductive Change where
  | table (name : Name)
  | assignments (assignments : Row)
  | rows (condition : Condition)
  | returning (columns : List Column)

def Change.clause : Change → Clause
  | .table _ => .table
  | .assignments _ => .assignments
  | .rows _ => .rows
  | .returning _ => .returning

/-- An UPDATE after a change. -/
def changed (s : Update) : Change → Update
  | .table name => { s with table := some name }
  | .assignments assignments => { s with assignments }
  | .rows condition => { s with rows := some (Condition.narrow s.rows condition) }
  | .returning columns => { s with returning := some columns }

theorem changed_comm {a b : Change} (h : a.clause ≠ b.clause) (s : Update) :
    (s.changed a).changed b = (s.changed b).changed a := by
  cases a <;> cases b <;> first | rfl | exact absurd rfl h

theorem changed_override {a b : Change} (h : a.clause = b.clause)
    (hset : b.clause.accumulates = false) (s : Update) :
    (s.changed a).changed b = s.changed b := by
  cases a <;> cases b <;> first | rfl | (cases h <;> cases hset)

theorem changes_call (c : Call) :
    Changes changed (fun a => a.clause = c.clause) (call · c) := by
  cases c with
  | table name => exact Changes.ofChecked _ Change.table (fun _ => rfl) fun _ => rfl
  | assignments given =>
      exact Changes.ofChecked _ Change.assignments (fun _ => rfl) fun _ => rfl
  | rows condition value =>
      refine Changes.ofChecked (Condition.ofCall .rows condition value) Change.rows
        (fun _ => rfl) fun s => ?_
      exact Condition.afterCall_bind fun rows => { s with rows }
  | returning arguments =>
      exact Changes.ofChecked _ Change.returning (fun _ => rfl) fun _ => rfl

end Update

/-! ## DELETE -/

namespace Delete

/-- The clauses that calls on a DELETE change. -/
inductive Clause where
  | table
  | rows
  | returning
deriving DecidableEq

def Clause.accumulates : Clause → Bool
  | .rows => true
  | _ => false

def Call.clause : Call → Clause
  | .table _ => .table
  | .rows _ _ => .rows
  | .returning _ => .returning

/-- What an accepted call has checked. -/
inductive Change where
  | table (name : Name)
  | rows (condition : Condition)
  | returning (columns : List Column)

def Change.clause : Change → Clause
  | .table _ => .table
  | .rows _ => .rows
  | .returning _ => .returning

/-- A DELETE after a change. -/
def changed (s : Delete) : Change → Delete
  | .table name => { s with table := some name }
  | .rows condition => { s with rows := some (Condition.narrow s.rows condition) }
  | .returning columns => { s with returning := some columns }

theorem changed_comm {a b : Change} (h : a.clause ≠ b.clause) (s : Delete) :
    (s.changed a).changed b = (s.changed b).changed a := by
  cases a <;> cases b <;> first | rfl | exact absurd rfl h

theorem changed_override {a b : Change} (h : a.clause = b.clause)
    (hset : b.clause.accumulates = false) (s : Delete) :
    (s.changed a).changed b = s.changed b := by
  cases a <;> cases b <;> first | rfl | (cases h <;> cases hset)

theorem changes_call (c : Call) :
    Changes changed (fun a => a.clause = c.clause) (call · c) := by
  cases c with
  | table name => exact Changes.ofChecked _ Change.table (fun _ => rfl) fun _ => rfl
  | rows condition value =>
      refine Changes.ofChecked (Condition.ofCall .rows condition value) Change.rows
        (fun _ => rfl) fun s => ?_
      exact Condition.afterCall_bind fun rows => { s with rows }
  | returning arguments =>
      exact Changes.ofChecked _ Change.returning (fun _ => rfl) fun _ => rfl

end Delete

/-! ## Stores -/

namespace Store

/-- What a call changes: a clause of a statement. The clauses of an INSERT depend on each other, so
it counts as a whole. -/
inductive Slot where
  | select (id : SelectId) (clause : Select.Clause)
  | insert (id : InsertId)
  | update (id : UpdateId) (clause : Update.Clause)
  | delete (id : DeleteId) (clause : Delete.Clause)
deriving DecidableEq

/-- Whether all calls count, and not only the last one. -/
def Slot.accumulates : Slot → Bool
  | .select _ clause => clause.accumulates
  | .insert _ => true
  | .update _ clause => clause.accumulates
  | .delete _ clause => clause.accumulates

def Call.slot : Call → Slot
  | .select id c => .select id c.clause
  | .insert id _ => .insert id
  | .update id c => .update id c.clause
  | .delete id c => .delete id c.clause

theorem call_select (id : SelectId) (c : Select.Call) :
    (fun st : Store => st.call (.select id c)) =
      stepWithin Store.selects (fun st selects => { st with selects })
        (stepAt {} id.index (Select.call id · c)) := rfl

theorem call_insert (id : InsertId) (c : Insert.Call) :
    (fun st : Store => st.call (.insert id c)) =
      stepWithin Store.inserts (fun st inserts => { st with inserts })
        (stepAt {} id.index (Insert.call · c)) := rfl

theorem call_update (id : UpdateId) (c : Update.Call) :
    (fun st : Store => st.call (.update id c)) =
      stepWithin Store.updates (fun st updates => { st with updates })
        (stepAt {} id.index (Update.call · c)) := rfl

theorem call_delete (id : DeleteId) (c : Delete.Call) :
    (fun st : Store => st.call (.delete id c)) =
      stepWithin Store.deletes (fun st deletes => { st with deletes })
        (stepAt {} id.index (Delete.call · c)) := rfl

theorem swaps_of_slot_ne {c c' : Call} (h : c.slot ≠ c'.slot) :
    Swaps (fun st : Store => st.call c) (fun st => st.call c') := by
  cases c with
  | select id c =>
      cases c' with
      | select id' c' =>
          rw [call_select, call_select]
          refine Swaps.within (fun _ _ => rfl) (fun _ _ _ => rfl) (.stepAt fun hid => ?_)
          cases id
          cases id'
          cases hid
          have hclause : c.clause ≠ c'.clause := fun heq => h (congrArg (Slot.select _) heq)
          exact (Select.changes_call _ c).swaps (Select.changes_call _ c') fun a b ha hb =>
            Select.changed_comm (ha ▸ hb ▸ hclause)
      | _ => exact fun st hc hc' => ⟨hc', hc, rfl⟩
  | insert id c =>
      cases c' with
      | insert id' c' =>
          rw [call_insert, call_insert]
          refine Swaps.within (fun _ _ => rfl) (fun _ _ _ => rfl) (.stepAt fun hid => ?_)
          cases id
          cases id'
          cases hid
          exact absurd rfl h
      | _ => exact fun st hc hc' => ⟨hc', hc, rfl⟩
  | update id c =>
      cases c' with
      | update id' c' =>
          rw [call_update, call_update]
          refine Swaps.within (fun _ _ => rfl) (fun _ _ _ => rfl) (.stepAt fun hid => ?_)
          cases id
          cases id'
          cases hid
          have hclause : c.clause ≠ c'.clause := fun heq => h (congrArg (Slot.update _) heq)
          exact (Update.changes_call c).swaps (Update.changes_call c') fun a b ha hb =>
            Update.changed_comm (ha ▸ hb ▸ hclause)
      | _ => exact fun st hc hc' => ⟨hc', hc, rfl⟩
  | delete id c =>
      cases c' with
      | delete id' c' =>
          rw [call_delete, call_delete]
          refine Swaps.within (fun _ _ => rfl) (fun _ _ _ => rfl) (.stepAt fun hid => ?_)
          cases id
          cases id'
          cases hid
          have hclause : c.clause ≠ c'.clause := fun heq => h (congrArg (Slot.delete _) heq)
          exact (Delete.changes_call c).swaps (Delete.changes_call c') fun a b ha hb =>
            Delete.changed_comm (ha ▸ hb ▸ hclause)
      | _ => exact fun st hc hc' => ⟨hc', hc, rfl⟩

theorem overrides_of_slot_eq {c c' : Call} (h : c.slot = c'.slot)
    (hset : c'.slot.accumulates = false) :
    Overrides (fun st : Store => st.call c) (fun st => st.call c') := by
  cases c with
  | select id c =>
      cases c' with
      | select id' c' =>
          obtain ⟨rfl, hclause⟩ := Slot.select.inj h
          rw [call_select, call_select]
          refine Overrides.within (fun _ _ => rfl) (fun _ _ _ => rfl) (.stepAt ?_)
          exact (Select.changes_call _ c).overrides (Select.changes_call _ c') fun a b ha hb =>
            Select.changed_override (ha.trans (hclause.trans hb.symm)) (hb ▸ hset)
      | _ => cases h
  | insert id c =>
      cases c' with
      | insert id' c' => cases hset
      | _ => cases h
  | update id c =>
      cases c' with
      | update id' c' =>
          obtain ⟨rfl, hclause⟩ := Slot.update.inj h
          rw [call_update, call_update]
          refine Overrides.within (fun _ _ => rfl) (fun _ _ _ => rfl) (.stepAt ?_)
          exact (Update.changes_call c).overrides (Update.changes_call c') fun a b ha hb =>
            Update.changed_override (ha.trans (hclause.trans hb.symm)) (hb ▸ hset)
      | _ => cases h
  | delete id c =>
      cases c' with
      | delete id' c' =>
          obtain ⟨rfl, hclause⟩ := Slot.delete.inj h
          rw [call_delete, call_delete]
          refine Overrides.within (fun _ _ => rfl) (fun _ _ _ => rfl) (.stepAt ?_)
          exact (Delete.changes_call c).overrides (Delete.changes_call c') fun a b ha hb =>
            Delete.changed_override (ha.trans (hclause.trans hb.symm)) (hb ▸ hset)
      | _ => cases h

/-! ## Accepted calls -/

/-- Calls lead from one store to another if they are all accepted, one after the other. -/
def Leads (st : Store) : List Call → Store → Prop
  | [], after => after = st
  | c :: calls, after => (st.call c).refusal = none ∧ Leads (st.call c).state calls after

end Store

end SqlComposer
