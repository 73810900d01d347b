import SqlComposer.Proofs.Inversion
import SqlComposer.Proofs.Orderly
import SqlComposer.Proofs.Refusal

/-!
# Sound statements

The functions that make conditions make checked ones. Calls that are given such conditions keep
every statement sound: its conditions are checked, and each of its rows has a value for every
column.

A condition that is written by hand may hold values of other kinds than its fields are for. What is
said of statements further on asks no more of such conditions than it needs, and that is true of
every sound statement: no column is looked up in a stream, and each is a name
(`Store.isStreamless_of_isSound`, `Store.streams_of_isSound`, `Store.isNamed_of_isSound`), and
nothing is shown as a text (`Store.displayedIn_pieces`).
-/

namespace SqlComposer

/-! ## Made conditions -/

/-- The conditions that the functions for making them give, from values and from made conditions. -/
inductive Condition.Made : Condition → Prop
  | compare {op column value : Value} {c : Condition} :
      Condition.compare op column value = .ok c → Made c
  | null {column : Value} {negated : Bool} {c : Condition} :
      Condition.null column negated = .ok c → Made c
  | within {column low high : Value} {c : Condition} :
      Condition.within column low high = .ok c → Made c
  | matching {column value : Value} {ignoresCase : Bool} {c : Condition} :
      Condition.matching column value ignoresCase = .ok c → Made c
  | isIn {column members : Value} {c : Condition} : Condition.isIn column members = .ok c → Made c
  | hasRows {subselect : Value} {negated : Bool} {c : Condition} :
      Condition.hasRows subselect negated = .ok c → Made c
  | raw {text values : Value} {fragment : Raw} :
      Raw.make text values = .ok fragment → Made (.raw fragment)
  | connect {op : Connective} {arguments : List Value} {c : Condition} :
      (∀ inner, .condition inner ∈ flattened arguments → Made inner) →
      Condition.connect op arguments = .ok c → Made c
  | opposite {argument : Value} {c : Condition} :
      (∀ inner, argument = .condition inner → Made inner) →
      Condition.opposite argument = .ok c → Made c

namespace Condition

/-! ## Checks -/

theorem name_of_columnOf {given column : Value} (h : columnOf given = .ok column) :
    column.name?.isSome := by
  unfold columnOf at h
  split at h
  · rename_i hvisible
    cases h
    obtain ⟨name, hname⟩ := Option.isSome_iff_exists.mp hvisible
    rw [(Option.filter_eq_some_iff.mp hname).1]
    rfl
  · cases h

theorem name_of_comparisonOf {given op : Value} (h : comparisonOf given = .ok op) :
    op.name?.isSome := by
  unfold comparisonOf at h
  split at h
  · split at h
    · cases h; rfl
    · cases h
  · cases h

theorem compare_checked {op column value : Value} {c : Condition}
    (h : compare op column value = .ok c) : c.isChecked := by
  obtain ⟨op', hop, h⟩ := bind_ok h
  obtain ⟨column', hcolumn, h⟩ := bind_ok h
  cases h
  exact Bool.and_eq_true_iff.mpr ⟨name_of_comparisonOf hop, name_of_columnOf hcolumn⟩

theorem hasMembers_of_membersOf {given members : Value} (h : membersOf given = .ok members)
    (htrue : members.isTruthy) : members.hasMembers := by
  have htuple : ∃ items serial, members = .tuple items serial := by
    unfold membersOf Value.collected? at h
    cases given with
    | tuple items serial => cases h; exact ⟨items, serial, rfl⟩
    | list | set | stream | rendered => cases h; exact ⟨_, _, rfl⟩
    | _ => cases h
  obtain ⟨items, serial, rfl⟩ := htuple
  cases items with
  | nil => cases htrue
  | cons item items => rfl

theorem isIn_checked {column members : Value} {c : Condition} (h : isIn column members = .ok c) :
    c.isChecked := by
  obtain ⟨column', hcolumn, h⟩ := bind_ok h
  have hname := name_of_columnOf hcolumn
  split at h
  · rename_i hselect
    cases h
    obtain ⟨id, hid⟩ := Option.isSome_iff_exists.mp hselect
    refine Bool.and_eq_true_iff.mpr ⟨hname, ?_⟩
    unfold Value.select? at hid
    split at hid
    · rfl
    · cases hid
  · obtain ⟨members', hmembers, h⟩ := bind_ok h
    split at h
    · rename_i htrue
      cases h
      exact Bool.and_eq_true_iff.mpr ⟨hname, hasMembers_of_membersOf hmembers htrue⟩
    · cases h

theorem allChecked_map {conditions : List Condition} (h : ∀ c ∈ conditions, c.isChecked) :
    Value.allChecked (conditions.map .condition) := by
  induction conditions with
  | nil => rfl
  | cons c conditions ih =>
      have hrest := ih fun c hc => h c (List.mem_cons_of_mem _ hc)
      exact Bool.and_eq_true_iff.mpr ⟨h c (List.mem_cons_self ..), hrest⟩

theorem ofConditions_checked {op : Connective} {conditions : List Condition} {c : Condition}
    (h : ofConditions op conditions = .ok c) (hall : ∀ c ∈ conditions, c.isChecked) :
    c.isChecked := by
  unfold ofConditions joined at h
  split at h
  · cases h
    exact allChecked_map hall
  · cases h

theorem ofArgument_checked {argument : Value} {c : Condition} (h : ofArgument argument = .ok c)
    (hinner : ∀ inner, argument = .condition inner → inner.isChecked) : c.isChecked := by
  unfold ofArgument at h
  split at h
  · cases h
    exact hinner _ rfl
  · cases h
  · obtain ⟨conditions, hconditions, h⟩ := bind_ok h
    refine ofConditions_checked h ?_
    exact mapM_ok _ hconditions fun entry _ c hc => compare_checked hc
  · cases h

theorem Made.isChecked {c : Condition} (h : c.Made) : c.isChecked := by
  induction h with
  | compare h => exact compare_checked h
  | null h | within h | matching h =>
      obtain ⟨column, hcolumn, h⟩ := bind_ok h
      cases h
      exact name_of_columnOf hcolumn
  | isIn h => exact isIn_checked h
  | hasRows h =>
      unfold Condition.hasRows at h
      split at h
      · rename_i hselect
        cases h
        exact hselect
      · cases h
  | raw h => rfl
  | connect _ h ih =>
      obtain ⟨conditions, hconditions, h⟩ := bind_ok h
      refine ofConditions_checked h (mapM_ok _ hconditions fun argument hmem c hc => ?_)
      exact ofArgument_checked hc fun inner hinner => ih inner (hinner ▸ hmem)
  | opposite _ h ih =>
      obtain ⟨inner, hinner, h⟩ := bind_ok h
      cases h
      have hchecked := ofArgument_checked hinner ih
      exact hchecked

/-! ## Conditions of clauses -/

theorem afterCall_checked {clause : ConditionClause} {prior after : Option Condition}
    {argument : Value} {value : Option Value} (hprior : checkedClause prior)
    (hargument : ∀ c, argument = .condition c → c.isChecked)
    (h : afterCall clause prior argument value = .ok after) : checkedClause after := by
  obtain ⟨c, hc, h⟩ := bind_ok h
  cases h
  have hchecked : c.isChecked := by
    unfold ofCall at hc
    split at hc
    · split at hc
      · exact compare_checked hc
      · cases hc
    · split at hc
      · cases hc
      · exact ofArgument_checked hc hargument
  cases prior with
  | none => exact hchecked
  | some prior => simp_all [checkedClause, narrow, isChecked, Value.areCheckedOperands,
      Value.allChecked, Value.isCheckedOperand]

end Condition

theorem Join.make_checked {table terms kind : Value} {j : Join}
    (hterms : ∀ c, terms = .condition c → c.isChecked) (h : Join.make table terms kind = .ok j) :
    j.terms.isChecked := by
  obtain ⟨kind', -, h⟩ := Condition.bind_ok h
  obtain ⟨table', -, h⟩ := Condition.bind_ok h
  obtain ⟨terms', hterms', h⟩ := Condition.bind_ok h
  cases h
  unfold JoinTerms.ofValue at hterms'
  split at hterms'
  · cases hterms'
    exact hterms _ rfl
  · cases hterms'
  · obtain ⟨pairs, -, hterms'⟩ := Condition.bind_ok hterms'
    cases hterms'
    rfl
  · cases hterms'

/-! ## Calls -/

theorem Outcome.ofChecked_passes {σ : Type} {test : σ → Bool} {before : σ}
    {checked : Except ClauseError σ} (hbefore : test before)
    (hafter : ∀ after, checked = .ok after → test after) :
    test (Outcome.ofChecked before checked).state :=
  ofChecked_preserves (P := fun s => test s) hbefore hafter

def Value.condition? : Value → Option Condition
  | .condition c => some c
  | _ => none

/-- The argument of a call that may be a condition. -/
def Select.Call.condition? : Select.Call → Option Condition
  | .join _ terms _ => terms.condition?
  | .rows condition _ => condition.condition?
  | .groups condition _ => condition.condition?
  | _ => none

def Update.Call.condition? : Update.Call → Option Condition
  | .rows condition _ => condition.condition?
  | _ => none

def Delete.Call.condition? : Delete.Call → Option Condition
  | .rows condition _ => condition.condition?
  | _ => none

/-- The condition that a call is given, if it is given one. -/
def Store.Call.condition? : Store.Call → Option Condition
  | .select _ c => c.condition?
  | .insert _ _ => none
  | .update _ c => c.condition?
  | .delete _ c => c.condition?

theorem Value.checked_of_condition? {v : Value} (h : ∀ c, v.condition? = some c → c.isChecked)
    (c : Condition) (hc : v = .condition c) : c.isChecked := by
  subst hc
  exact h c rfl

theorem Select.isSound_call {own : SelectId} {s : Select} {c : Select.Call} (hs : s.isSound)
    (hc : ∀ condition, c.condition? = some condition → condition.isChecked) :
    (s.call own c).state.isSound := by
  have hparts := hs
  simp only [isSound, Bool.and_eq_true] at hparts
  obtain ⟨⟨hjoins, hrows⟩, hgroups⟩ := hparts
  cases c with
  | join table terms kind =>
      refine Outcome.ofChecked_passes hs fun after hafter => ?_
      obtain ⟨j, hj, hafter⟩ := Condition.bind_ok hafter
      cases hafter
      have hterms := Join.make_checked (Value.checked_of_condition? hc) hj
      simp only [isSound, List.all_append, List.all_cons, hjoins, hterms, hrows, hgroups]
      rfl
  | rows condition value =>
      refine Outcome.ofChecked_passes hs fun after hafter => ?_
      obtain ⟨rows, hnew, hafter⟩ := Condition.bind_ok hafter
      cases hafter
      have hchecked := Condition.afterCall_checked hrows (Value.checked_of_condition? hc) hnew
      simp only [isSound, hjoins, hchecked, hgroups]
      rfl
  | groups condition value =>
      refine Outcome.ofChecked_passes hs fun after hafter => ?_
      obtain ⟨groups, hnew, hafter⟩ := Condition.bind_ok hafter
      cases hafter
      have hchecked := Condition.afterCall_checked hgroups (Value.checked_of_condition? hc) hnew
      simp only [isSound, hjoins, hrows, hchecked]
      rfl
  | source table sourceAlias =>
      simp only [call, setSource]
      split
      · split
        · exact hs
        · exact Outcome.ofChecked_keeps (P := (Select.isSound ·)) hs fun _ => hs
      · exact Outcome.ofChecked_keeps (P := (Select.isSound ·)) hs fun _ => hs
  | distinct enabled => exact hs
  | forUpdate enabled => exact hs
  | _ => exact Outcome.ofChecked_keeps (P := (Select.isSound ·)) hs fun _ => hs

/-! ## Rows -/

theorem covers_of_sameNames {columns : List Name} {row : Row}
    (h : sameNames row.columns columns) : row.covers columns := by
  rw [sameNames, Bool.and_eq_true] at h
  refine List.all_eq_true.mpr fun column hcolumn => ?_
  obtain ⟨name, hname, htext⟩ := List.any_eq_true.mp (List.all_eq_true.mp h.2 column hcolumn)
  obtain ⟨entry, hentry, rfl⟩ := List.mem_map.mp hname
  rw [Row.value?, Option.isSome_map, List.find?_isSome]
  exact ⟨entry, hentry, htext⟩

theorem Insert.isSound_of_sameNames {s : Insert}
    (h : ∀ row ∈ s.rows, sameNames row.columns s.columnNames) : s.isSound :=
  List.all_eq_true.mpr fun row hrow => covers_of_sameNames (h row hrow)

/-- Without columns, rows that agree with them have none either. -/
theorem columns_of_sameNames_nil {row : Row} (h : sameNames row.columns []) : row.columns = [] := by
  rw [sameNames, Bool.and_eq_true] at h
  cases hcolumns : row.columns with
  | nil => rfl
  | cons name names => rw [hcolumns] at h; cases h.1

theorem Insert.isSound_setColumns {s after : Insert} {arguments : List Value}
    (h : s.setColumns arguments = .ok after) : after.isSound := by
  obtain ⟨names, -, -, hsame, rfl⟩ := setColumns_iff.mp h
  cases names with
  | cons name names => exact Insert.isSound_of_sameNames hsame
  | nil =>
      -- The columns are those of the first row, which has none.
      refine List.all_eq_true.mpr fun row hrow => ?_
      have hnone : Insert.columnNames { s with columns := [] } = [] := by
        cases hall : s.rows with
        | nil => simp [columnNames]
        | cons first rest =>
            have hfirst := hsame first (hall ▸ List.mem_cons_self ..)
            simpa [columnNames, hall] using columns_of_sameNames_nil hfirst
      rw [hnone]
      rfl

theorem Insert.isSound_setRows {s after : Insert} {given : Value}
    (h : s.setRows given = .ok after) : after.isSound := by
  obtain ⟨-, rows, -, hsame, rfl⟩ := setRows_iff.mp h
  exact Insert.isSound_of_sameNames hsame

theorem Insert.isSound_call {s : Insert} {c : Insert.Call} (hs : s.isSound) :
    (s.call c).state.isSound := by
  cases c with
  | columns arguments =>
      exact Outcome.ofChecked_passes hs fun _ hafter => Insert.isSound_setColumns hafter
  | rows given => exact Outcome.ofChecked_passes hs fun _ hafter => Insert.isSound_setRows hafter
  | source subselect =>
      refine Outcome.ofChecked_passes hs fun after hafter => ?_
      unfold setSource at hafter
      split at hafter
      · split at hafter
        · cases hafter
        · cases hafter
          exact hs
      · split at hafter
        · cases hafter
        · cases hafter
  | _ => exact Outcome.ofChecked_keeps (P := (Insert.isSound ·)) hs fun _ => hs

theorem Update.isSound_call {s : Update} {c : Update.Call} (hs : s.isSound)
    (hc : ∀ condition, c.condition? = some condition → condition.isChecked) :
    (s.call c).state.isSound := by
  cases c with
  | rows condition value =>
      refine Outcome.ofChecked_passes hs fun after hafter => ?_
      obtain ⟨rows, hnew, hafter⟩ := Condition.bind_ok hafter
      cases hafter
      exact Condition.afterCall_checked hs (Value.checked_of_condition? hc) hnew
  | _ => exact Outcome.ofChecked_keeps (P := (Update.isSound ·)) hs fun _ => hs

theorem Delete.isSound_call {s : Delete} {c : Delete.Call} (hs : s.isSound)
    (hc : ∀ condition, c.condition? = some condition → condition.isChecked) :
    (s.call c).state.isSound := by
  cases c with
  | rows condition value =>
      refine Outcome.ofChecked_passes hs fun after hafter => ?_
      obtain ⟨rows, hnew, hafter⟩ := Condition.bind_ok hafter
      cases hafter
      exact Condition.afterCall_checked hs (Value.checked_of_condition? hc) hnew
  | _ => exact Outcome.ofChecked_keeps (P := (Delete.isSound ·)) hs fun _ => hs

/-! ## Stores -/

namespace Store

/-- Whether all statements are sound. -/
def isSound (st : Store) : Bool :=
  st.selects.all Select.isSound && st.inserts.all Insert.isSound &&
    st.updates.all Update.isSound && st.deletes.all Delete.isSound

/-- Whether a statement has the clauses without which it cannot be written. -/
def isComplete (st : Store) : StatementRef → Bool
  | .bare _ => false
  | .select _ => true
  | .insert id => (st.insert id).isComplete
  | .update id => (st.update id).isComplete
  | .delete id => (st.delete id).table.isSome

theorem passes_getD {α : Type} {test : α → Bool} {as : List α} {d : α} (h : as.all test)
    (hd : test d) (i : Nat) : test (as.getD i d) := by
  rw [List.getD_eq_getElem?_getD]
  cases hi : as[i]? with
  | none => exact hd
  | some a => exact List.all_eq_true.mp h a (List.mem_of_getElem? hi)

theorem all_set {α : Type} {test : α → Bool} {as : List α} {a : α} (h : as.all test)
    (ha : test a) (i : Nat) : (as.set i a).all test := by
  refine List.all_eq_true.mpr fun b hb => ?_
  rcases List.mem_or_eq_of_mem_set hb with hb | rfl
  · exact List.all_eq_true.mp h b hb
  · exact ha

section Sound

variable {st : Store} (h : st.isSound)
include h

theorem isSound_select (id : SelectId) : (st.select id).isSound := by
  simp only [isSound, Bool.and_eq_true] at h
  exact passes_getD h.1.1.1 rfl id.index

theorem isSound_insert (id : InsertId) : (st.insert id).isSound := by
  simp only [isSound, Bool.and_eq_true] at h
  exact passes_getD h.1.1.2 rfl id.index

theorem isSound_update (id : UpdateId) : (st.update id).isSound := by
  simp only [isSound, Bool.and_eq_true] at h
  exact passes_getD h.1.2 rfl id.index

theorem isSound_delete (id : DeleteId) : (st.delete id).isSound := by
  simp only [isSound, Bool.and_eq_true] at h
  exact passes_getD h.2 rfl id.index

theorem orderly_layout {r : StatementRef} (hr : st.isComplete r) :
    orderlyIn true (st.layout r) := by
  cases r with
  | bare id => cases hr
  | select id => rfl
  | insert id => exact Insert.orderly_layout fun _ => ⟨isSound_insert h id, hr⟩
  | update id => exact Update.orderly_layout fun _ => ⟨isSound_update h id, hr⟩
  | delete id => exact Delete.orderly_layout fun _ => ⟨isSound_delete h id, hr⟩

theorem isSound_call {c : Call} (hc : ∀ condition, c.condition? = some condition →
    condition.isChecked) : (st.call c).state.isSound := by
  have hparts := h
  simp only [isSound, Bool.and_eq_true] at hparts
  obtain ⟨⟨⟨hselects, hinserts⟩, hupdates⟩, hdeletes⟩ := hparts
  simp only [isSound, Bool.and_eq_true]
  cases c with
  | select id c =>
      have hnew : ((st.select id).call id c).state.isSound :=
        Select.isSound_call (isSound_select h id) hc
      exact ⟨⟨⟨all_set hselects hnew id.index, hinserts⟩, hupdates⟩, hdeletes⟩
  | insert id c =>
      have hnew := Insert.isSound_call (c := c) (isSound_insert h id)
      exact ⟨⟨⟨hselects, all_set hinserts hnew id.index⟩, hupdates⟩, hdeletes⟩
  | update id c =>
      have hnew := Update.isSound_call (isSound_update h id) hc
      exact ⟨⟨⟨hselects, hinserts⟩, all_set hupdates hnew id.index⟩, hdeletes⟩
  | delete id c =>
      have hnew := Delete.isSound_call (isSound_delete h id) hc
      exact ⟨⟨⟨hselects, hinserts⟩, hupdates⟩, all_set hdeletes hnew id.index⟩

/-- Calls that are given checked conditions keep all statements sound. -/
theorem isSound_afterCalls {calls : List Call} (hcalls : ∀ c ∈ calls, ∀ condition,
    c.condition? = some condition → condition.isChecked) : (st.afterCalls calls).isSound := by
  induction calls generalizing st with
  | nil => exact h
  | cons c calls ih =>
      have hfirst := isSound_call h (hcalls c (List.mem_cons_self ..))
      exact ih hfirst fun c hc => hcalls c (List.mem_cons_of_mem _ hc)

end Sound

end Store

end SqlComposer
