import SqlComposer.Dialect.Registry
import SqlComposer.Statement.Insert

/-!
# What accepted checks give

Checks that have been passed, read backwards: what was checked in a call that sets the rows or the
columns of an INSERT, or an option of a dialect, and what was made of it. What follows from a check
is proved from these lemmas, and only they open the checks themselves.
-/

namespace SqlComposer

/-! ## Steps that do not fail -/

namespace Condition

theorem bind_ok {ε α β : Type} {x : Except ε α} {f : α → Except ε β} {b : β}
    (h : (do f (← x)) = .ok b) : ∃ a, x = .ok a ∧ f a = .ok b := by
  cases x with
  | ok a => exact ⟨a, rfl, h⟩
  | error e => cases h

theorem mapM_ok {ε α β : Type} {f : α → Except ε β} {P : β → Prop} :
    (as : List α) → {bs : List β} → as.mapM f = .ok bs → (∀ a ∈ as, ∀ b, f a = .ok b → P b) →
      ∀ b ∈ bs, P b
  | [], bs, h, _ => by
      cases h
      exact fun _ hb => nomatch hb
  | a :: as, bs, h, hf => by
      rw [List.mapM_cons] at h
      obtain ⟨first, hfirst, h⟩ := bind_ok h
      obtain ⟨rest, hrest, h⟩ := bind_ok h
      cases h
      have htail := mapM_ok as hrest fun a ha => hf a (List.mem_cons_of_mem _ ha)
      intro b hb
      rcases List.mem_cons.mp hb with rfl | hb
      · exact hf a (List.mem_cons_self ..) b hfirst
      · exact htail b hb

end Condition

theorem bind_ok_iff {ε α β : Type} {x : Except ε α} {f : α → Except ε β} {b : β} :
    x >>= f = .ok b ↔ ∃ a, x = .ok a ∧ f a = .ok b :=
  ⟨Condition.bind_ok, fun ⟨_, hx, hf⟩ => hx ▸ hf⟩

theorem length_of_mapM {ε α β : Type} {f : α → Except ε β} {as : List α} {bs : List β}
    (h : as.mapM f = .ok bs) : bs.length = as.length := by
  induction as generalizing bs with
  | nil =>
      cases h
      rfl
  | cons a as ih =>
      rw [List.mapM_cons] at h
      obtain ⟨b, -, h⟩ := Condition.bind_ok h
      obtain ⟨rest, hrest, h⟩ := Condition.bind_ok h
      cases h
      exact congrArg (· + 1) (ih hrest)

theorem ne_nil_of_mapM {ε α β : Type} {f : α → Except ε β} {as : List α} {bs : List β}
    (h : as.mapM f = .ok bs) (has : as ≠ []) : bs ≠ [] := by
  rw [← List.length_pos_iff, length_of_mapM h]
  exact List.length_pos_iff.mpr has

/-! ## Columns and rows -/

theorem checkRowsFrom_iff {columns : List Name} {start : Nat} {rows : List Row} :
    checkRowsFrom columns start rows = .ok () ↔ ∀ row ∈ rows, sameNames row.columns columns := by
  induction rows generalizing start with
  | nil => exact iff_of_true rfl nofun
  | cons row rows ih =>
      rw [checkRowsFrom, List.forall_mem_cons]
      by_cases hsame : sameNames row.columns columns
      · rw [if_pos hsame, ih, and_iff_right hsame]
      · rw [if_neg hsame]
        exact iff_of_false nofun fun h => hsame h.1

/-- The rows that a call gives, each of them checked for itself. -/
def givenRows (given : Value) : Except ClauseError (List Row) := do
  (← rowArguments given).mapM rowOf

theorem Row.ne_nil_of_rowOf {given : Value} {row : Row} (h : rowOf given = .ok row) : row ≠ [] := by
  unfold rowOf at h
  split at h
  · cases h
  · rename_i hsome
    exact ne_nil_of_mapM h hsome
  · cases h

namespace Insert

variable {s after : Insert}

theorem setColumns_iff {arguments : List Value} :
    s.setColumns arguments = .ok after ↔
      ∃ names, (flattened arguments).mapM (nameOf "Insert column") = .ok names ∧
        (names.map Name.text).Nodup ∧ (∀ row ∈ s.rows, sameNames row.columns names) ∧
          after = { s with columns := names } := by
  constructor
  · intro h
    obtain ⟨names, hnames, h⟩ := Condition.bind_ok h
    split at h
    · obtain ⟨_, hthrow, -⟩ := Condition.bind_ok h
      cases hthrow
    · rename_i hdistinct
      obtain ⟨_, hrows, h⟩ := Condition.bind_ok h
      cases h
      exact ⟨names, hnames, by simpa using hdistinct, checkRowsFrom_iff.mp hrows, rfl⟩
  · rintro ⟨names, hnames, hdistinct, hrows, rfl⟩
    refine bind_ok_iff.mpr ⟨names, hnames, ?_⟩
    rw [if_neg (by simpa using hdistinct)]
    exact bind_ok_iff.mpr ⟨(), checkRowsFrom_iff.mpr hrows, rfl⟩

theorem setRows_iff {given : Value} :
    s.setRows given = .ok after ↔
      s.source = none ∧ ∃ rows, givenRows given = .ok rows ∧
        (∀ row ∈ rows, sameNames row.columns (columnNames { s with rows })) ∧
          after = { s with rows } := by
  by_cases hsource : s.source = none
  · have hrows : s.setRows given = do
        let rows ← givenRows given
        checkRows rows (columnNames { s with rows })
        return { s with rows } := by
      rw [setRows, hsource, givenRows, bind_assoc]
      rfl
    rw [hrows, and_iff_right hsource]
    constructor
    · intro h
      obtain ⟨rows, hmade, h⟩ := Condition.bind_ok h
      obtain ⟨_, hchecked, h⟩ := Condition.bind_ok h
      cases h
      exact ⟨rows, hmade, checkRowsFrom_iff.mp hchecked, rfl⟩
    · rintro ⟨rows, hmade, hsame, rfl⟩
      exact bind_ok_iff.mpr ⟨rows, hmade, bind_ok_iff.mpr ⟨(), checkRowsFrom_iff.mpr hsame, rfl⟩⟩
  · refine iff_of_false (fun h => ?_) fun h => hsource h.1
    rw [setRows, if_pos (Option.isSome_iff_ne_none.mpr hsource)] at h
    cases h

end Insert

/-! ## Options -/

theorem quotesOf_cases {given opening closing : Value}
    (h : quotesOf given = .ok (opening, closing)) :
    (opening = .null ∧ closing = .null) ∨
      ∃ c serial, isQuoteCharacter c ∧ opening = .text (String.singleton c) serial ∧
        closing = closingFor c opening := by
  unfold quotesOf at h
  split at h
  · cases h
    exact .inl ⟨rfl, rfl⟩
  · rename_i s serial
    split at h
    · cases h
      exact .inl ⟨rfl, rfl⟩
    · rename_i c hs
      obtain rfl : s = String.singleton c := by
        rw [← String.ofList_toList (s := s), hs]
        rfl
      split at h
      · rename_i hc
        cases h
        exact .inr ⟨c, serial, hc, rfl, rfl⟩
      · cases h
    · cases h
  · cases h

namespace Dialect

variable {databases : Databases}

/-- The dialect of a database has the quotes that the library finds for a text, and the name that is
in the text. -/
theorem exists_of_ofDatabase {given : Value} {d : Dialect}
    (h : ofDatabase databases given = .ok d) :
    ∃ text quotes, databases.quotesFor text = .ok quotes ∧
      d = ofQuotes (Database.nameIn text) quotes := by
  unfold ofDatabase at h
  split at h
  · cases h
  · rename_i name _
    split at h
    · rename_i quotes hquotes
      cases h
      exact ⟨name.text, quotes, hquotes, rfl⟩
    · cases h
    · cases h

/-- What setting one option may make of a dialect. -/
inductive Sets (databases : Databases) (d : Dialect) : Dialect → Prop
  | style (style : PlaceholderStyle) :
      Sets databases d { d with style := .keyword (.placeholderStyle style) }
  | quotes {given opening closing : Value} :
      quotesOf given = .ok (opening, closing) → Sets databases d { d with opening, closing }
  | bindsCounts (b : Bool) : Sets databases d { d with bindsCounts := .bool b }
  | database {given : Value} {named : Dialect} : ofDatabase databases given = .ok named →
      Sets databases d { named with bindsCounts := d.bindsCounts }

theorem sets_of_withOption {d after : Dialect} {option value : Value}
    (h : d.withOption databases option value = .ok after) : Sets databases d after := by
  obtain ⟨kind, -, h⟩ := Condition.bind_ok h
  cases kind with
  | placeholder =>
      obtain ⟨style, -, h⟩ := Condition.bind_ok h
      cases h
      exact .style style
  | quote =>
      obtain ⟨⟨opening, closing⟩, hquotes, h⟩ := Condition.bind_ok h
      cases h
      exact .quotes hquotes
  | countBinding =>
      obtain ⟨switch, hswitch, h⟩ := Condition.bind_ok h
      cases h
      unfold switchOf at hswitch
      split at hswitch
      · cases hswitch
        exact .bindsCounts _
      · cases hswitch
  | database =>
      obtain ⟨named, hnamed, h⟩ := Condition.bind_ok h
      cases h
      exact .database hnamed

end Dialect

end SqlComposer
