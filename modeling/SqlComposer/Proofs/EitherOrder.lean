import SqlComposer.Proofs.Agreement

/-!
# Columns and rows in either order

The columns and the rows of an INSERT are checked against each other by whichever of the two calls
comes second. With at least one column it does not matter which one that is: the same columns and
rows are accepted, and the statement is the same after both calls.
-/

namespace SqlComposer

/-! ## Names -/

theorem sameNames_of_both {first second third : List Name} (h : sameNames first third)
    (h' : sameNames second third) : sameNames first second :=
  sameNames_iff.mpr fun text =>
    (sameNames_iff.mp h text).trans (sameNames_iff.mp h' text).symm

/-! ## Rows -/

theorem rowArguments_ne_nil {given : Value} {arguments : List Value}
    (h : rowArguments given = .ok arguments) : arguments ≠ [] := by
  unfold rowArguments at h
  split at h
  · cases h
    exact List.cons_ne_nil _ _
  · split at h
    · cases h
      exact List.cons_ne_nil _ _
    · cases h

theorem first_of_givenRows {given : Value} {rows : List Row} (h : givenRows given = .ok rows) :
    ∃ first rest, rows = first :: rest ∧ first.columns ≠ [] := by
  obtain ⟨arguments, harguments, hrows⟩ := Condition.bind_ok h
  obtain ⟨first, rest, rfl⟩ :=
    List.exists_cons_of_ne_nil (ne_nil_of_mapM hrows (rowArguments_ne_nil harguments))
  have hfirst : first ≠ [] :=
    Condition.mapM_ok _ hrows (fun _ _ _ hrow => Row.ne_nil_of_rowOf hrow) _ List.mem_cons_self
  exact ⟨first, rest, rfl, fun hnone => hfirst (List.map_eq_nil_iff.mp hnone)⟩

namespace Insert

/-! ## Accepted calls -/

/-- Calls lead from one INSERT to another if they are all accepted, one after the other. -/
def Leads (s : Insert) : List Call → Insert → Prop
  | [], after => after = s
  | c :: calls, after => (s.call c).refusal = none ∧ Leads (s.call c).state calls after

variable {s after : Insert} {arguments : List Value} {given : Value}

theorem leads_ofChecked {c : Call} {checked : Except ClauseError Insert} {calls : List Call}
    (h : s.call c = .ofChecked s checked) :
    s.Leads (c :: calls) after ↔ ∃ middle, checked = .ok middle ∧ middle.Leads calls after := by
  rw [Leads, h]
  cases checked with
  | ok middle =>
      refine ⟨fun hleads => ⟨middle, rfl, hleads.2⟩, ?_⟩
      rintro ⟨_, ⟨⟩, hleads⟩
      exact ⟨rfl, hleads⟩
  | error cause => exact iff_of_false (fun hleads => nomatch hleads.1) nofun

theorem columnNames_of_columns (h : s.columns ≠ []) : s.columnNames = s.columns := by
  rw [columnNames, if_neg (by simpa using h)]

theorem columnNames_of_rows {first : Row} {rest : List Row} (hcolumns : s.columns = [])
    (hrows : s.rows = first :: rest) : s.columnNames = first.columns := by
  rw [columnNames, hcolumns, hrows]
  rfl

/-! ## Both calls -/

/-- Columns and rows that pass all checks when an INSERT is given both of them. -/
structure AcceptedTogether (arguments : List Value) (given : Value) (names : List Name)
    (rows : List Row) : Prop where
  named : (flattened arguments).mapM (nameOf "Insert column") = .ok names
  distinct : (names.map Name.text).Nodup
  made : givenRows given = .ok rows
  same : ∀ row ∈ rows, sameNames row.columns names

theorem leads_columns_rows (hrows : s.rows = []) (hsource : s.source = none)
    (hsome : flattened arguments ≠ []) :
    s.Leads [.columns arguments, .rows given] after ↔
      ∃ names rows, AcceptedTogether arguments given names rows ∧
        after = { s with columns := names, rows } := by
  rw [leads_ofChecked rfl]
  constructor
  · rintro ⟨middle, hmiddle, hleads⟩
    obtain ⟨names, hnames, hdistinct, -, rfl⟩ := setColumns_iff.mp hmiddle
    obtain ⟨last, hlast, rfl⟩ := (leads_ofChecked rfl).mp hleads
    obtain ⟨-, rows, hmade, hsame, rfl⟩ := setRows_iff.mp hlast
    rw [columnNames_of_columns (ne_nil_of_mapM hnames hsome)] at hsame
    exact ⟨names, rows, ⟨hnames, hdistinct, hmade, hsame⟩, rfl⟩
  · rintro ⟨names, rows, h, rfl⟩
    have hnone : ∀ row ∈ s.rows, sameNames row.columns names := by
      rw [hrows]
      exact nofun
    let middle : Insert := { s with columns := names }
    have hcolumnNames : columnNames { middle with rows } = names :=
      columnNames_of_columns (ne_nil_of_mapM h.named hsome)
    refine ⟨middle, setColumns_iff.mpr ⟨names, h.named, h.distinct, hnone, rfl⟩, ?_⟩
    refine (leads_ofChecked rfl).mpr
      ⟨_, (setRows_iff (s := middle)).mpr ⟨hsource, rows, h.made, ?_, rfl⟩, rfl⟩
    rw [hcolumnNames]
    exact h.same

theorem leads_rows_columns (hcolumns : s.columns = []) (hsource : s.source = none) :
    s.Leads [.rows given, .columns arguments] after ↔
      ∃ names rows, AcceptedTogether arguments given names rows ∧
        after = { s with columns := names, rows } := by
  rw [leads_ofChecked rfl]
  constructor
  · rintro ⟨middle, hmiddle, hleads⟩
    obtain ⟨-, rows, hmade, -, rfl⟩ := setRows_iff.mp hmiddle
    obtain ⟨last, hlast, rfl⟩ := (leads_ofChecked rfl).mp hleads
    obtain ⟨names, hnames, hdistinct, hsame, rfl⟩ := setColumns_iff.mp hlast
    exact ⟨names, rows, ⟨hnames, hdistinct, hmade, hsame⟩, rfl⟩
  · rintro ⟨names, rows, h, rfl⟩
    obtain ⟨first, rest, rfl, -⟩ := first_of_givenRows h.made
    let middle : Insert := { s with rows := first :: rest }
    have hcolumnNames : middle.columnNames = first.columns := columnNames_of_rows hcolumns rfl
    refine ⟨middle, setRows_iff.mpr ⟨hsource, _, h.made, fun row hrow => ?_, rfl⟩, ?_⟩
    · rw [hcolumnNames]
      exact sameNames_of_both (h.same row hrow) (h.same first List.mem_cons_self)
    · exact (leads_ofChecked rfl).mpr
        ⟨_, (setColumns_iff (s := middle)).mpr ⟨names, h.named, h.distinct, h.same, rfl⟩, rfl⟩

theorem setColumns_none (hcolumns : s.columns = []) (hrows : s.rows = [])
    (hnone : flattened arguments = []) : s.setColumns arguments = .ok s := by
  refine setColumns_iff.mpr ⟨[], by rw [hnone]; rfl, List.nodup_nil, ?_, by rw [← hcolumns]⟩
  rw [hrows]
  exact nofun

theorem call_columns_none {first : Row} {rest : List Row} (hrows : s.rows = first :: rest)
    (hfirst : first.columns ≠ []) (hnone : flattened arguments = []) :
    s.call (.columns arguments) = ⟨s, some (.rowMismatch 0 (sortedNames first.columns) [])⟩ := by
  have hdiffer : ¬ sameNames first.columns [] := fun h => hfirst (columns_of_sameNames_nil h)
  have hcheck : checkRows s.rows [] =
      .error (.rowMismatch 0 (sortedNames first.columns) []) := by
    rw [checkRows, hrows, checkRowsFrom, if_neg hdiffer, sortedNames, sortedNames,
      List.mergeSort_nil]
  have hset : s.setColumns arguments =
      .error (.rowMismatch 0 (sortedNames first.columns) []) := by
    rw [setColumns, hnone]
    show (do
      checkRows s.rows []
      return { s with columns := [] }) = _
    rw [hcheck]
    rfl
  rw [call, hset]
  rfl

/-- The columns and the rows of a fresh INSERT may be set in either order if there is a column: both
calls are accepted iff the columns are distinct names and each row is a mapping with exactly these
names as keys, and the clauses are then the same. A call without columns changes nothing in front of
the rows and is refused behind them. -/
theorem columns_rows_either_order (hcolumns : s.columns = []) (hrows : s.rows = [])
    (hsource : s.source = none) (arguments : List Value) (given : Value) :
    (flattened arguments ≠ [] → ∀ after,
      (s.Leads [.columns arguments, .rows given] after ↔
        s.Leads [.rows given, .columns arguments] after) ∧
      (s.Leads [.columns arguments, .rows given] after ↔
        ∃ names rows, AcceptedTogether arguments given names rows ∧
          after = { s with columns := names, rows })) ∧
    (flattened arguments = [] → ∀ after,
      (s.Leads [.columns arguments, .rows given] after ↔ s.Leads [.rows given] after) ∧
      (s.Leads [.rows given] after → ∃ first rest, after.rows = first :: rest ∧
        after.call (.columns arguments) =
          ⟨after, some (.rowMismatch 0 (sortedNames first.columns) [])⟩)) := by
  refine ⟨fun hsome after => ?_, fun hnone after => ⟨?_, fun hleads => ?_⟩⟩
  · have hfirst : s.Leads [.columns arguments, .rows given] after ↔ _ :=
      leads_columns_rows hrows hsource hsome
    exact ⟨hfirst.trans (leads_rows_columns hcolumns hsource).symm, hfirst⟩
  · rw [leads_ofChecked rfl, setColumns_none hcolumns hrows hnone]
    refine ⟨?_, fun hleads => ⟨s, rfl, hleads⟩⟩
    rintro ⟨_, ⟨⟩, hleads⟩
    exact hleads
  · obtain ⟨last, hlast, rfl⟩ := (leads_ofChecked rfl).mp hleads
    obtain ⟨-, rows, hmade, -, rfl⟩ := setRows_iff.mp hlast
    obtain ⟨first, rest, rfl, hfirst⟩ := first_of_givenRows hmade
    exact ⟨first, rest, rfl, call_columns_none rfl hfirst hnone⟩

theorem columns_rows_either_order_two_rows :
    let s : Insert := { table := some (.plain "users") }
    let cell (name : String) (n : Nat) : Value × Value := (.ofText name, .int n 0)
    let columns : Call := .columns [.ofText "name", .ofText "id"]
    let rows : Call := .rows <| .list
      [.map [cell "id" 1, cell "name" 2] 0, .map [cell "name" 3, cell "id" 4] 0] 0
    s.columns = [] ∧ s.rows = [] ∧ s.source = none ∧
      ∃ after, s.Leads [columns, rows] after ∧ s.Leads [rows, columns] after ∧
        after.columnNames = [.plain "name", .plain "id"] := by
  intro s cell columns rows
  let after := ((s.call columns).state.call rows).state
  have hleads : s.Leads [columns, rows] after := ⟨rfl, rfl, rfl⟩
  obtain ⟨horder, -⟩ := columns_rows_either_order (s := s) rfl rfl rfl
    [.ofText "name", .ofText "id"] (.list
      [.map [cell "id" 1, cell "name" 2] 0, .map [cell "name" 3, cell "id" 4] 0] 0)
  have hboth := (horder (List.cons_ne_nil _ _) after).1
  exact ⟨rfl, rfl, rfl, after, hleads, hboth.mp hleads, rfl⟩

/-- A call that gives no columns is accepted in front of rows and refused behind them. -/
theorem no_columns_behind_rows_refused :
    let columns : Call := .columns []
    let rows : Call := .rows (.map [(.ofText "id", .int 1 0)] 0)
    (∃ after, Leads {} [columns, rows] after) ∧ ¬ ∃ after, Leads {} [rows, columns] after := by
  intro columns rows
  refine ⟨⟨_, rfl, rfl, rfl⟩, ?_⟩
  rintro ⟨after, -, hrefusal, -⟩
  cases hrefusal

end Insert

end SqlComposer
