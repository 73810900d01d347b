import Mathlib.Data.List.Perm.Basic
import SqlComposer.Proofs.Narrowing
import SqlComposer.Proofs.Steadiness

/-!
# Compacted runs

Of the accepted calls that set one clause only the last counts, and the order of calls matters for
those alone that add to the same clause. So a run can be cut down to the calls that count.
-/

namespace SqlComposer

namespace Store

/-! ## Runs -/

/-- The calls without those to a clause that is set again later. -/
def compacted : List Call → List Call
  | [] => []
  | c :: calls =>
    if !c.slot.accumulates && calls.any (·.slot = c.slot) then compacted calls
    else c :: compacted calls

/-- The calls that change the given clause, in order. -/
def callsOn (slot : Slot) (calls : List Call) : List Call :=
  calls.filter (·.slot = slot)

theorem callsOn_cons_self {slot : Slot} {c : Call} (h : c.slot = slot) (calls : List Call) :
    callsOn slot (c :: calls) = c :: callsOn slot calls :=
  List.filter_cons_of_pos (decide_eq_true h)

theorem callsOn_cons_of_ne {slot : Slot} {c : Call} (h : c.slot ≠ slot) (calls : List Call) :
    callsOn slot (c :: calls) = callsOn slot calls :=
  List.filter_cons_of_neg (by simpa using h)

theorem callsOn_append (slot : Slot) (front back : List Call) :
    callsOn slot (front ++ back) = callsOn slot front ++ callsOn slot back :=
  List.filter_append ..

section Leads

variable {st after : Store} {c c' : Call} {calls : List Call}

theorem Leads.swap (h : c.slot ≠ c'.slot) (hleads : st.Leads (c :: c' :: calls) after) :
    st.Leads (c' :: c :: calls) after := by
  obtain ⟨hc, hc', hrest⟩ := hleads
  obtain ⟨hfirst, hsecond, hstate⟩ := swaps_of_slot_ne h st hc hc'
  refine ⟨hfirst, hsecond, ?_⟩
  rw [hstate]
  exact hrest

theorem Leads.toFront {front back : List Call} (h : ∀ c' ∈ front, c'.slot ≠ c.slot)
    (hleads : st.Leads (front ++ c :: back) after) : st.Leads (c :: (front ++ back)) after := by
  induction front generalizing st with
  | nil => exact hleads
  | cons c' front ih =>
      obtain ⟨hc', hrest⟩ := hleads
      have hfront := ih (fun other hother => h other (List.mem_cons_of_mem _ hother)) hrest
      exact Leads.swap (h c' (List.mem_cons_self ..)) ⟨hc', hfront⟩

theorem Leads.override (h : c.slot = c'.slot) (hset : c'.slot.accumulates = false)
    (hleads : st.Leads (c :: c' :: calls) after) : st.Leads (c' :: calls) after := by
  obtain ⟨hc, hc', hrest⟩ := hleads
  have hsame := overrides_of_slot_eq h hset st hc hc'
  simp only at hsame
  rw [Leads, hsame]
  exact ⟨hc', hrest⟩

theorem Leads.forget (hset : c.slot.accumulates = false)
    (hlater : ∃ c' ∈ calls, c'.slot = c.slot) (hleads : st.Leads (c :: calls) after) :
    st.Leads calls after := by
  induction calls generalizing st with
  | nil =>
      obtain ⟨_, hnone, -⟩ := hlater
      cases hnone
  | cons c' calls ih =>
      by_cases hsame : c'.slot = c.slot
      · exact hleads.override hsame.symm (hsame ▸ hset)
      · obtain ⟨hc', hrest⟩ := hleads.swap (Ne.symm hsame)
        obtain ⟨other, hother, hslot⟩ := hlater
        have hother := (List.mem_cons.mp hother).resolve_left fun heq => hsame (heq ▸ hslot)
        exact ⟨hc', ih ⟨other, hother, hslot⟩ hrest⟩

end Leads

/-! ## Dropping calls -/

section Compacted

variable {calls : List Call}

theorem exists_mem_compacted {c : Call} (h : c ∈ calls) :
    ∃ c' ∈ compacted calls, c'.slot = c.slot := by
  induction calls generalizing c with
  | nil => cases h
  | cons first calls ih =>
      unfold compacted
      split
      · rename_i hlater
        rcases List.mem_cons.mp h with rfl | h
        · rw [Bool.and_eq_true, List.any_eq_true] at hlater
          obtain ⟨later, hmem, hslot⟩ := hlater.2
          obtain ⟨c', hc', hsame⟩ := ih hmem
          exact ⟨c', hc', hsame.trans (of_decide_eq_true hslot)⟩
        · exact ih h
      · rcases List.mem_cons.mp h with rfl | h
        · exact ⟨c, List.mem_cons_self .., rfl⟩
        · obtain ⟨c', hc', hsame⟩ := ih h
          exact ⟨c', List.mem_cons_of_mem _ hc', hsame⟩

theorem callsOn_compacted {slot : Slot} (h : slot.accumulates) :
    callsOn slot (compacted calls) = callsOn slot calls := by
  induction calls with
  | nil => rfl
  | cons c calls ih =>
      unfold compacted
      split
      · rename_i hlater
        have hother : c.slot ≠ slot := by
          rintro rfl
          rw [h] at hlater
          cases hlater
        rw [ih, callsOn_cons_of_ne hother]
      · by_cases hslot : c.slot = slot
        · rw [callsOn_cons_self hslot, callsOn_cons_self hslot, ih]
        · rw [callsOn_cons_of_ne hslot, callsOn_cons_of_ne hslot, ih]

theorem callsOn_compacted_last {slot : Slot} (h : slot.accumulates = false) :
    callsOn slot (compacted calls) = (callsOn slot calls).getLast?.toList := by
  induction calls with
  | nil => rfl
  | cons c calls ih =>
      by_cases hslot : c.slot = slot
      · subst hslot
        rw [callsOn_cons_self rfl]
        unfold compacted
        split
        · rename_i hlater
          -- The clause is set again, so the last call to it is among the calls behind.
          rw [Bool.and_eq_true, List.any_eq_true] at hlater
          obtain ⟨later, hmem, hsame⟩ := hlater.2
          have hsome : callsOn c.slot calls ≠ [] :=
            List.ne_nil_of_mem (List.mem_filter.mpr ⟨hmem, hsame⟩)
          rw [ih, List.getLast?_cons_of_ne_nil hsome]
        · rename_i hlast
          have hnone : callsOn c.slot calls = [] := by
            refine List.filter_eq_nil_iff.mpr fun later hmem hsame => hlast ?_
            rw [h, Bool.not_false, Bool.true_and]
            exact List.any_eq_true.mpr ⟨later, hmem, hsame⟩
          rw [callsOn_cons_self rfl, ih, hnone]
          rfl
      · rw [callsOn_cons_of_ne hslot, ← ih, compacted]
        split
        · rfl
        · exact callsOn_cons_of_ne hslot _

theorem Leads.compacted {st after : Store} (h : st.Leads calls after) :
    st.Leads (compacted calls) after := by
  induction calls generalizing st with
  | nil => exact h
  | cons c calls ih =>
      have hkept : st.Leads (c :: Store.compacted calls) after := ⟨h.1, ih h.2⟩
      rw [Store.compacted]
      split
      · rename_i hlater
        rw [Bool.and_eq_true, Bool.not_eq_true', List.any_eq_true] at hlater
        obtain ⟨hset, later, hmem, hslot⟩ := hlater
        obtain ⟨c', hc', hsame⟩ := exists_mem_compacted hmem
        exact hkept.forget hset ⟨c', hc', hsame.trans (of_decide_eq_true hslot)⟩
      · exact hkept

end Compacted

/-! ## Changing the order -/

/-- The order of calls matters only for each clause on its own. -/
theorem Leads.reorder {st after : Store} {calls kept : List Call} (hleads : st.Leads calls after)
    (h : ∀ slot, callsOn slot kept = callsOn slot calls) : st.Leads kept after := by
  induction kept generalizing st calls with
  | nil =>
      cases calls with
      | nil => exact hleads
      | cons c calls =>
          have hsome := h c.slot
          rw [callsOn_cons_self rfl] at hsome
          cases hsome
  | cons c kept ih =>
      have hown := (h c.slot).symm
      rw [callsOn_cons_self rfl, callsOn, List.filter_eq_cons_iff] at hown
      obtain ⟨front, back, rfl, hfront, -, hback⟩ := hown
      have hother (c' : Call) (hc' : c' ∈ front) : c'.slot ≠ c.slot := by simpa using hfront c' hc'
      obtain ⟨hc, hrest⟩ := hleads.toFront hother
      refine ⟨hc, ih hrest fun slot => ?_⟩
      by_cases hsame : c.slot = slot
      · subst hsame
        have hnone : callsOn c.slot front = [] := List.filter_eq_nil_iff.mpr hfront
        rw [callsOn_append, hnone, List.nil_append]
        exact hback.symm
      · have hslot := h slot
        rwa [callsOn_append, callsOn_cons_of_ne hsame, callsOn_cons_of_ne hsame,
          ← callsOn_append] at hslot

/-- Calls that are kept, in any order that leaves those in their order that add to one clause, come
to the same for each clause on its own. -/
theorem callsOn_of_perm {calls kept : List Call} (hkept : kept.Perm (compacted calls))
    (horder : ∀ slot : Slot, slot.accumulates → callsOn slot kept = callsOn slot calls)
    (slot : Slot) : callsOn slot kept = callsOn slot (compacted calls) := by
  cases h : slot.accumulates with
  | true => rw [horder slot h, callsOn_compacted h]
  | false =>
      have hperm : (callsOn slot kept).Perm (callsOn slot (compacted calls)) :=
        hkept.filter _
      rw [callsOn_compacted_last h] at hperm ⊢
      cases hlast : (callsOn slot calls).getLast? with
      | none =>
          rw [hlast] at hperm
          exact List.perm_nil.mp hperm
      | some c =>
          rw [hlast] at hperm
          exact List.perm_singleton.mp hperm

/-! ## Scripts -/

/-- A step of a script: a call, or a rendering with the dialect that is then in use and the one that
is asked for. -/
inductive Step where
  | call (c : Call)
  | build (inUse asked : Value) (r : StatementRef)

def Step.call? : Step → Option Call
  | .call c => some c
  | .build .. => none

/-- A script leads from one store to another if its calls are all accepted. Renderings, with a
result or without, only leave their mark on what has happened. -/
def Runs (st : Store) (before : Progress) : List Step → Store → Progress → Prop
  | [], after, last => after = st ∧ last = before
  | .call c :: steps, after, last =>
    (st.call c).refusal = none ∧ Runs (st.call c).state before steps after last
  | .build inUse asked r :: steps, after, last =>
    Runs st ((st.render inUse asked r).finish before) steps after last

section Runs

variable {st after : Store} {before last : Progress}

theorem Runs.leads {steps : List Step} (h : st.Runs before steps after last) :
    st.Leads (steps.filterMap Step.call?) after := by
  induction steps generalizing st before with
  | nil => exact h.1
  | cons step steps ih =>
      cases step with
      | call c =>
          obtain ⟨hc, hrest⟩ := h
          exact ⟨hc, ih hrest⟩
      | build inUse asked r => exact ih h

theorem Leads.runs {calls : List Call} (h : st.Leads calls after) (before : Progress) :
    st.Runs before (calls.map Step.call) after before := by
  induction calls generalizing st with
  | nil => exact ⟨h, rfl⟩
  | cons c calls ih =>
      obtain ⟨hc, hrest⟩ := h
      exact ⟨hc, ih hrest⟩

end Runs

/-- Without its renderings, with only the last of the calls that set a clause, and in any order that
leaves the calls that add to a clause as they are, a script of accepted calls leads to the same
statements, and no condition on their rows is lost. All statements are then rendered alike, unless a
rendering has taken items from a stream that they read in the end; sound ones read none. -/
theorem run_compacted {st after : Store} {before last : Progress} {steps : List Step}
    {kept : List Call} (hrun : st.Runs before steps after last)
    (hkept : kept.Perm (compacted (steps.filterMap Step.call?)))
    (horder : ∀ slot : Slot, slot.accumulates →
      callsOn slot kept = callsOn slot (steps.filterMap Step.call?)) :
    st.Runs before (kept.map Step.call) after before ∧
      (∀ c ∈ steps.filterMap Step.call?, ∀ r condition, c.narrows? = some (r, condition) →
        r ∈ st.refs → ∃ whole, after.rows? r = some whole ∧ condition.IsConjunct whole) ∧
      (after.isSound ∨ last.Agree after.Reads before → ∀ inUse asked r,
        (after.render inUse asked r).outcome last =
          (after.render inUse asked r).outcome before) := by
  have hleads := hrun.leads
  refine ⟨?_, ?_, ?_⟩
  · exact (hleads.compacted.reorder (callsOn_of_perm hkept horder)).runs before
  · intro c hc r condition hnarrows hr
    exact hleads.isConjunct_of_mem hc hnarrows hr
  · intro h inUse asked r
    have hagree : last.Agree after.Reads before := by
      rcases h with hsound | hagree
      · rintro number ⟨other, hnumber⟩
        rw [streams_of_isSound hsound other] at hnumber
        cases hnumber
      · exact hagree
    exact (steady_render inUse asked r last before hagree).1

/-- A column is looked up in a subselect. -/
def embedding : Condition :=
  .membership (.ofText "a") (.statement (.select ⟨1⟩)) 0

/-- The calls that come first in the compacted script: those that add to a clause, and a source. -/
def narrowingCalls : List Call :=
  [.select ⟨0⟩ (.source (.ofText "t") .null),
    .select ⟨0⟩ (.rows (.condition embedding) none),
    .select ⟨0⟩ (.rows (.ofText "b") (some (.int 1 0)))]

/-- The calls that come last in it. None of them adds to a clause. -/
def finishingCalls : List Call :=
  [.select ⟨1⟩ (.columns [.ofText "a"]), .select ⟨1⟩ (.source (.ofText "u") .null),
    .update ⟨0⟩ (.table (.ofText "t")), .select ⟨0⟩ (.limit (.int 2 0))]

/-- A subselect that is finished after it has been embedded, a limit that is set twice, and
renderings in between: of a statement with the unfinished subselect, and of one that lacks a
clause. -/
def draftingScript : List Step :=
  .call (.select ⟨0⟩ (.limit (.int 5 0))) :: narrowingCalls.map .call ++
    [.build .standardDialect .null (.select ⟨0⟩), .build .standardDialect .null (.update ⟨0⟩)] ++
    finishingCalls.map .call

theorem run_compacted_drafting :
    let start : Store := { selects := [{}, {}], updates := [{}] }
    ∃ after last, start.Runs {} draftingScript after last ∧
      compacted (draftingScript.filterMap Step.call?) = narrowingCalls ++ finishingCalls ∧
      start.Runs {} ((finishingCalls ++ narrowingCalls).map .call) after {} ∧
      (∃ whole, after.rows? (.select ⟨0⟩) = some whole ∧ embedding.IsConjunct whole) ∧
      ∀ inUse asked r,
        (after.render inUse asked r).outcome last = (after.render inUse asked r).outcome {} := by
  intro start
  let after := start.afterCalls (narrowingCalls ++ finishingCalls)
  have hrun : ∃ last, start.Runs {} draftingScript after last :=
    ⟨_, rfl, rfl, rfl, rfl, rfl, rfl, rfl, rfl, rfl, rfl⟩
  obtain ⟨last, hrun⟩ := hrun
  have hcompacted : compacted (draftingScript.filterMap Step.call?) =
      narrowingCalls ++ finishingCalls := rfl
  have hkept : (finishingCalls ++ narrowingCalls).Perm
      (compacted (draftingScript.filterMap Step.call?)) :=
    hcompacted ▸ List.perm_append_comm
  have horder (slot : Slot) (h : slot.accumulates) :
      callsOn slot (finishingCalls ++ narrowingCalls) =
        callsOn slot (draftingScript.filterMap Step.call?) := by
    have hset : ∀ c ∈ finishingCalls, c.slot.accumulates = false := by decide
    have hnone : callsOn slot finishingCalls = [] := by
      refine List.filter_eq_nil_iff.mpr fun c hc hsame => ?_
      have hno := hset c hc
      rw [of_decide_eq_true hsame, h] at hno
      cases hno
    have hall : callsOn slot (compacted (draftingScript.filterMap Step.call?)) =
        callsOn slot (draftingScript.filterMap Step.call?) :=
      callsOn_compacted h
    rw [← hall, hcompacted, callsOn_append, callsOn_append, hnone, List.nil_append,
      List.append_nil]
  obtain ⟨hdirect, hrows, houtcome⟩ := run_compacted hrun hkept horder
  refine ⟨after, last, hrun, hcompacted, hdirect, ?_, houtcome (.inl ?_)⟩
  · exact hrows (.select ⟨0⟩ (.rows (.condition embedding) none)) (.tail _ (.tail _ (.head _))) _ _
      rfl (by decide)
  · decide +kernel

/-- A condition that looks up a column in a stream. -/
def streamingCalls : List Call :=
  [.select ⟨0⟩ (.source (.ofText "t") .null),
    .select ⟨0⟩ (.rows (.condition (.membership (.ofText "a")
      (.stream [.int 1 0, .int 2 0] 0) 0)) none)]

/-- What is rendered once and then again does not come out as without the first time, if items were
taken from a stream. -/
theorem render_after_build_differs :
    let start : Store := { selects := [{}] }
    let build := Step.build .standardDialect .null (.select ⟨0⟩)
    ∃ after last, start.Runs {} (streamingCalls.map .call ++ [build]) after last ∧
      start.Runs {} ((compacted streamingCalls).map .call) after {} ∧
      let text (before : Progress) :=
        ((after.render .standardDialect .null (.select ⟨0⟩)).outcome before).toOption.map (·.text)
      text last = some "SELECT * FROM t WHERE a IN ()" ∧
        text {} = some "SELECT * FROM t WHERE a IN ($1, $2)" := by
  intro start build
  refine ⟨start.afterCalls streamingCalls, _, ⟨rfl, rfl, rfl, rfl⟩, ⟨rfl, rfl, rfl, rfl⟩, ?_, ?_⟩
  · decide +kernel
  · decide +kernel

end Store

end SqlComposer
