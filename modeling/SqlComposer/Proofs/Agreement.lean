import Mathlib.Data.List.Perm.Basic
import SqlComposer.Proofs.Soundness
import SqlComposer.Value.Equality

/-!
# Rows that agree

Whatever calls are made on an INSERT, each of its rows names the columns that are written, every one
of them once, and it has rows or a subselect to take them from, never both.
-/

namespace SqlComposer

/-! ## Mappings -/

/-- Whether no key of a mapping equals a later one. Other values have no keys. -/
def Value.HasDistinctKeys : Value → Prop
  | .map entries _ => entries.Pairwise fun first second => ¬ first.1.alike second.1
  | _ => True

theorem Value.alike_of_text {first second : Value} {name other : Name}
    (hfirst : first.name? = some name) (hsecond : second.name? = some other)
    (h : name.text = other.text) : first.alike second := by
  cases first with
  | text s serial | keyword word =>
      cases hfirst
      simp only [alike, hsecond]
      exact decide_eq_true h
  | _ => cases hfirst

/-! ## Names -/

theorem visibleName?_of_nameOf {what : String} {given : Value} {name : Name}
    (h : nameOf what given = .ok name) : given.visibleName? = some name := by
  unfold nameOf at h
  split at h
  · rename_i hname
    cases h
    exact hname
  · cases h

theorem not_blank_of_visibleName? {given : Value} {name : Name}
    (h : given.visibleName? = some name) : ¬ Text.allBlank name.text := by
  have hvisible := (Option.filter_eq_some_iff.mp h).2
  simpa using hvisible

theorem name?_of_visibleName? {given : Value} {name : Name} (h : given.visibleName? = some name) :
    given.name? = some name :=
  (Option.filter_eq_some_iff.mp h).1

theorem sameNames_iff {first second : List Name} :
    sameNames first second ↔
      ∀ text, text ∈ first.map Name.text ↔ text ∈ second.map Name.text := by
  rw [sameNames, Bool.and_eq_true]
  simp only [List.all_eq_true, List.any_eq_true, decide_eq_true_eq, List.mem_map]
  constructor
  · rintro ⟨hfirst, hsecond⟩ text
    constructor
    · rintro ⟨name, hname, rfl⟩
      exact hfirst name hname
    · rintro ⟨name, hname, rfl⟩
      exact hsecond name hname
  · exact fun h => ⟨fun name hname => (h name.text).mp ⟨name, hname, rfl⟩,
      fun name hname => (h name.text).mpr ⟨name, hname, rfl⟩⟩

/-! ## Rows -/

theorem Row.columns_of_namedEntries {what : String} : {entries : List (Value × Value)} →
    {row : Row} → namedEntries what entries = .ok row →
      row.columns.map some = entries.map (·.1.visibleName?)
  | [], _, h => by
      cases h
      rfl
  | entry :: entries, _, h => by
      rw [namedEntries, List.mapM_cons] at h
      obtain ⟨first, hfirst, h⟩ := Condition.bind_ok h
      obtain ⟨name, hname, hfirst⟩ := Condition.bind_ok hfirst
      obtain ⟨rest, hrest, h⟩ := Condition.bind_ok h
      cases hfirst
      cases h
      have htail : (Row.columns rest).map some = entries.map (·.1.visibleName?) :=
        Row.columns_of_namedEntries hrest
      rw [List.map_cons, visibleName?_of_nameOf hname, ← htail]
      rfl

theorem Row.nodup_of_rowOf {given : Value} {row : Row} (hkeys : given.HasDistinctKeys)
    (h : rowOf given = .ok row) : (row.columns.map Name.text).Nodup := by
  unfold rowOf at h
  split at h
  · cases h
  · rename_i entries serial hsome
    have hpairs : (row.columns.map some).Pairwise fun first second =>
        ∀ name other, first = some name → second = some other → name.text ≠ other.text := by
      rw [Row.columns_of_namedEntries h, List.pairwise_map]
      refine List.Pairwise.imp ?_ hkeys
      intro first second hdiffer name other hname hother heq
      exact hdiffer <|
        Value.alike_of_text (name?_of_visibleName? hname) (name?_of_visibleName? hother) heq
    rw [List.pairwise_map] at hpairs
    rw [List.Nodup, List.pairwise_map]
    exact hpairs.imp fun hdiffer => hdiffer _ _ rfl rfl
  · cases h

/-! ## Statements -/

namespace Insert

/-- The rows and the columns of an INSERT agree with each other. -/
structure Agrees (s : Insert) : Prop where
  exclusive : s.rows = [] ∨ s.source = none
  columns_nodup : (s.columns.map Name.text).Nodup
  columns_visible : ∀ name ∈ s.columns, ¬ Text.allBlank name.text
  rows_nonempty : ∀ row ∈ s.rows, row ≠ []
  rows_nodup : ∀ row ∈ s.rows, (row.columns.map Name.text).Nodup
  rows_same : ∀ row ∈ s.rows, sameNames row.columns s.columnNames

theorem Agrees.start (dialect : Value) : Agrees { dialect } where
  exclusive := .inl rfl
  columns_nodup := List.nodup_nil
  columns_visible _ h := nomatch h
  rows_nonempty _ h := nomatch h
  rows_nodup _ h := nomatch h
  rows_same _ h := nomatch h

theorem Agrees.setColumns {s after : Insert} (hs : s.Agrees) {arguments : List Value}
    (h : s.setColumns arguments = .ok after) : after.Agrees := by
  obtain ⟨names, hnames, hdistinct, hsame, rfl⟩ := setColumns_iff.mp h
  have hvisible : ∀ name ∈ names, ¬ Text.allBlank name.text :=
    Condition.mapM_ok _ hnames fun _ _ _ hname =>
      not_blank_of_visibleName? (visibleName?_of_nameOf hname)
  refine ⟨hs.exclusive, hdistinct, hvisible, hs.rows_nonempty, hs.rows_nodup, ?_⟩
  cases names with
  | cons name names => exact hsame
  | nil =>
      -- Without columns there are no rows either, for a row has some.
      intro row hrow
      have hnone := columns_of_sameNames_nil (hsame row hrow)
      exact absurd (List.map_eq_nil_iff.mp hnone) (hs.rows_nonempty row hrow)

theorem mem_of_rowArguments {given : Value} {arguments : List Value}
    (h : rowArguments given = .ok arguments) :
    ∀ v ∈ arguments, v ∈ given :: given.items?.getD [] := by
  unfold rowArguments at h
  split at h
  · cases h
    exact fun v hv => List.mem_cons.mpr (.inl (List.mem_singleton.mp hv))
  · split at h
    · rename_i hitems
      cases h
      rw [hitems]
      exact fun v hv => List.mem_cons_of_mem _ hv
    · cases h

theorem Agrees.setRows {s after : Insert} (hs : s.Agrees) {given : Value}
    (hkeys : ∀ v ∈ given :: given.items?.getD [], v.HasDistinctKeys)
    (h : s.setRows given = .ok after) : after.Agrees := by
  obtain ⟨hsource, rows, hmade, hsame, rfl⟩ := setRows_iff.mp h
  obtain ⟨arguments, harguments, hrows⟩ := Condition.bind_ok hmade
  have hnodup : ∀ row ∈ rows, (row.columns.map Name.text).Nodup :=
    Condition.mapM_ok _ hrows fun v hv _ hrow =>
      Row.nodup_of_rowOf (hkeys v (mem_of_rowArguments harguments v hv)) hrow
  exact ⟨.inr hsource, hs.columns_nodup, hs.columns_visible,
    Condition.mapM_ok _ hrows fun _ _ _ hrow => Row.ne_nil_of_rowOf hrow, hnodup, hsame⟩

theorem Agrees.setSource {s after : Insert} (hs : s.Agrees) {subselect : Value}
    (h : s.setSource subselect = .ok after) : after.Agrees := by
  unfold Insert.setSource at h
  split at h
  · split at h
    · cases h
    · rename_i hempty
      cases h
      have hnone : s.rows = [] := by simpa using hempty
      exact { hs with exclusive := .inl hnone }
  · split at h <;> cases h

/-- The mappings that a call gives as rows have distinct keys. -/
def Call.GivesMappings : Call → Prop
  | .rows given => ∀ v ∈ given :: given.items?.getD [], v.HasDistinctKeys
  | _ => True

/-- Every call keeps rows and columns in agreement, refused or not. -/
theorem Agrees.call {s : Insert} (hs : s.Agrees) {c : Call} (hc : c.GivesMappings) :
    (s.call c).state.Agrees := by
  cases c with
  | columns arguments =>
      exact Outcome.ofChecked_preserves hs fun _ hafter => hs.setColumns hafter
  | rows given => exact Outcome.ofChecked_preserves hs fun _ hafter => hs.setRows hc hafter
  | source subselect => exact Outcome.ofChecked_preserves hs fun _ hafter => hs.setSource hafter
  | _ => exact Outcome.ofChecked_keeps (P := Agrees) hs fun _ => { hs with }

/-- An INSERT after calls, whether or not they are refused. -/
def afterCalls (s : Insert) (calls : List Call) : Insert :=
  calls.foldl (fun s c => (s.call c).state) s

theorem Agrees.afterCalls {s : Insert} (hs : s.Agrees) {calls : List Call}
    (hcalls : ∀ c ∈ calls, c.GivesMappings) : (s.afterCalls calls).Agrees := by
  induction calls generalizing s with
  | nil => exact hs
  | cons c calls ih =>
      have hfirst := hs.call (hcalls c (List.mem_cons_self ..))
      exact ih hfirst fun c hc => hcalls c (List.mem_cons_of_mem _ hc)

/-- The columns of each row are those that are written, in some order. -/
theorem Agrees.perm {s : Insert} (hs : s.Agrees) {row : Row} (hrow : row ∈ s.rows) :
    (row.columns.map Name.text).Perm (s.columnNames.map Name.text) := by
  have hwritten : (s.columnNames.map Name.text).Nodup := by
    cases hall : s.rows with
    | nil => rw [hall] at hrow; cases hrow
    | cons first rest =>
        unfold columnNames
        split
        · rw [hall]
          exact hs.rows_nodup first (hall ▸ List.mem_cons_self ..)
        · exact hs.columns_nodup
  exact (List.perm_ext_iff_of_nodup (hs.rows_nodup row hrow) hwritten).mpr
    (sameNames_iff.mp (hs.rows_same row hrow))

/-- Whatever calls are made on an INSERT that has just been started, refused or not: it never has
both rows and a subselect, the columns that it asks for are distinct names, and each row has a value
for all columns that are written and no other ones. -/
theorem rows_agree (dialect : Value) (calls : List Call)
    (hcalls : ∀ c ∈ calls, c.GivesMappings) :
    let s := Insert.afterCalls { dialect } calls
    (s.rows = [] ∨ s.source = none) ∧
      (s.columns.map Name.text).Nodup ∧
      (∀ name ∈ s.columns, ¬ Text.allBlank name.text) ∧
      (s.rows ≠ [] → (s.columnNames.map Name.text).Nodup) ∧
      ∀ row ∈ s.rows, row ≠ [] ∧
        (row.columns.map Name.text).Perm (s.columnNames.map Name.text) ∧
        ∀ column ∈ s.columnNames, (row.value? column).isSome := by
  intro s
  have hs : s.Agrees := (Agrees.start dialect).afterCalls hcalls
  refine ⟨hs.exclusive, hs.columns_nodup, hs.columns_visible, fun hsome => ?_, fun row hrow => ?_⟩
  · obtain ⟨row, hrow⟩ := List.exists_mem_of_ne_nil _ hsome
    exact (hs.perm hrow).nodup (hs.rows_nodup row hrow)
  · have hcovers := covers_of_sameNames (hs.rows_same row hrow)
    exact ⟨hs.rows_nonempty row hrow, hs.perm hrow, List.all_eq_true.mp hcovers⟩

/-- Columns that are asked for in another order than the row has them, and asked for again, two
rows that are refused, and a subselect. -/
def mixedCalls : List Call :=
  let cell (name : String) : Value × Value := (.ofText name, .int 1 0)
  let columns (names : List String) : Call := .columns (names.map Value.ofText)
  [columns ["b", "a"], .rows (.list [.map [cell "a", cell "b"] 0] 0), .rows (.map [cell "c"] 0),
    columns ["a"], columns ["a", "b"], .source (.statement (.select ⟨0⟩)), columns []]

theorem rows_agree_mixed :
    let s := Insert.afterCalls {} mixedCalls
    (∀ c ∈ mixedCalls, c.GivesMappings) ∧ s.rows.length = 1 ∧ s.source = none ∧
      ∀ row ∈ s.rows, (row.columns.map Name.text).Perm (s.columnNames.map Name.text) := by
  intro s
  have hcalls : ∀ c ∈ mixedCalls, c.GivesMappings := by
    simp [mixedCalls, Call.GivesMappings, Value.HasDistinctKeys, Value.items?, Value.alike,
      Value.ofText, Value.name?, Name.text]
  exact ⟨hcalls, by decide, by decide, fun row hrow =>
    ((rows_agree .null mixedCalls hcalls).2.2.2.2 row hrow).2.1⟩

end Insert

end SqlComposer
