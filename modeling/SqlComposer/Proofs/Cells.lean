import Mathlib.Data.List.Find
import Mathlib.Data.List.Nodup
import SqlComposer.Proofs.Agreement
import SqlComposer.Proofs.BoundValues
import SqlComposer.Proofs.SameLayout
import SqlComposer.Proofs.Sequence

/-!
# Cells

An INSERT with rows is written as a table of cells: its columns once, and then for each row one cell
for each column, fetched by the name of the column. So the order of the keys in a row does not show,
and the values of the cells are bound row by row, in the order of the columns.
-/

namespace SqlComposer

/-! ## Writing cells -/

/-- The value of a row in a column. -/
def Row.cell (row : Row) (column : Name) : Value :=
  (row.value? column).getD .null

/-- Parts in parentheses, with commas between them. -/
def group (parts : List (List Token)) : List Token :=
  .text "(" :: commaSeparated parts ++ [.text ")"]

namespace Insert

/-- How the table is written, then the name of each column, and then row by row the value of the
row in each column. -/
def writeRows (s : Insert) (st : Store) (w : Writer) (table : Name) : Writing (List Token) := do
  let target ← tokens w [.identifier table]
  let names ← s.columnNames.mapM fun column => tokens w [.identifier column.asEntry]
  let rows ← s.rows.mapM fun row =>
    s.columnNames.mapM fun column => tokens w (st.pieces (row.cell column).layout)
  return .text "INSERT INTO " :: target ++ .text " " :: group names ++
    .text " " :: .text "VALUES " :: commaSeparated (rows.map group)

/-- The same as a text, and with it what follows the rows. -/
def writeCells (s : Insert) (w : Writer) (sub : SelectId → Binding String) (table : Name) :
    Binding String :=
  let target : Binding String := do return "INSERT INTO " ++ (← w.identifier table)
  let names : Binding String := do return inParentheses (← w.identifierList s.columnNames)
  let cells (row : Row) : Binding String := do
    return inParentheses (← Binding.joined ", " (s.columnNames.map fun column =>
      (row.cell column).write w sub))
  let rows : Binding String := do return "VALUES " ++ (← Binding.joined ", " (s.rows.map cells))
  Binding.joined " " ([target, names, rows] ++ returningWrite w sub s.returning)

/-- What follows the rows. -/
def returningPieces (s : Insert) : List Piece :=
  (returningLayout s.returning).flatMap (.word " " :: ·)

/-- Every row has a value in every column that is written. -/
def IsFilled (s : Insert) : Prop :=
  ∀ row ∈ s.rows, ∀ column ∈ s.columnNames, row.value? column = some (row.cell column)

theorem Agrees.isFilled {s : Insert} (hs : s.Agrees) : s.IsFilled := by
  intro row hrow column hcolumn
  have hcovers := covers_of_sameNames (hs.rows_same row hrow)
  obtain ⟨value, hvalue⟩ := Option.isSome_iff_exists.mp (List.all_eq_true.mp hcovers column hcolumn)
  rw [Row.cell, hvalue]
  rfl

end Insert

section Writing

variable {s : Insert} {st : Store} {w : Writer}

theorem tokens_identifierList (names : List Name) :
    tokens w (st.pieces (Piece.parenthesized (identifierList names))) = do
      return group (← names.mapM fun name => tokens w [.identifier name.asEntry]) := by
  have hname (name : Name) : unfolded (st.selectPieces []) [.identifier name.asEntry] =
      [.identifier name.asEntry] := rfl
  rw [Store.pieces, tokens_unfolded_parenthesized, identifierList, tokens_unfolded_joined,
    List.mapM_map]
  simp only [Function.comp_def, hname, bind_assoc, pure_bind]
  rfl

theorem Row.tokens_layout {row : Row} {columns : List Name}
    (hfilled : ∀ column ∈ columns, row.value? column = some (row.cell column)) :
    tokens w (st.pieces (row.layout columns)) = do
      return group (← columns.mapM fun column =>
        tokens w (st.pieces (row.cell column).layout)) := by
  have hcells : columns.map row.cellLayout =
      columns.map fun column => (row.cell column).layout := by
    refine List.map_congr_left fun column hcolumn => ?_
    rw [cellLayout, hfilled column hcolumn]
  rw [Store.pieces, Row.layout, hcells, tokens_unfolded_parenthesized, tokens_unfolded_joined,
    List.mapM_map]
  simp only [Function.comp_def, bind_assoc, pure_bind]
  rfl

theorem Insert.write_eq_writeCells {table : Name} (hfilled : s.IsFilled)
    (htable : s.table = some table) (hrows : s.rows ≠ []) (w : Writer)
    (sub : SelectId → Binding String) : s.write w sub = s.writeCells w sub table := by
  have hcontents : (!s.rows.isEmpty) = true := by simpa using hrows
  have hcells (row : Row) (hrow : row ∈ s.rows) : row.write w sub s.columnNames = (do
      return inParentheses (← Binding.joined ", " (s.columnNames.map fun column =>
        (row.cell column).write w sub))) := by
    have hcell : s.columnNames.map (Row.writeCell w sub row) =
        s.columnNames.map fun column => (row.cell column).write w sub := by
      refine List.map_congr_left fun column hcolumn => ?_
      rw [Row.writeCell, hfilled row hrow column hcolumn]
    rw [Row.write, hcell]
  rw [write, htable, contentWrites, if_pos hcontents, writeCells, ← List.map_congr_left hcells]
  rfl

theorem Insert.tokens_layout {table : Name} (hfilled : s.IsFilled) (htable : s.table = some table)
    (hrows : s.rows ≠ []) :
    tokens w (st.pieces s.layout) = do
      let rows ← s.writeRows st w table
      let returned ← tokens w (st.pieces s.returningPieces)
      return rows ++ returned := by
  let front : List (List Piece) :=
    [[.word "INSERT INTO ", .identifier table], Piece.parenthesized (identifierList s.columnNames),
      .word "VALUES " :: Piece.joined ", " (s.rows.map (Row.layout s.columnNames))]
  have hlayout : s.layout = Piece.joined " " front ++ s.returningPieces := by
    have hcontents : s.contents = front.tail := by
      rw [contents, if_pos]
      · rfl
      · simpa using hrows
    rw [layout, htable]
    show Piece.joined " " ([[_, _]] ++ s.contents ++ _) = _
    rw [hcontents]
    exact Piece.joined_behind " " (List.cons_ne_nil _ _) _
  have htarget : unfolded (st.selectPieces []) [.identifier table] = [.identifier table] := rfl
  have hnames : tokens w (st.pieces (Piece.parenthesized (identifierList s.columnNames))) = _ :=
    tokens_identifierList s.columnNames
  have hcells : (s.rows.mapM fun row => tokens w (st.pieces (row.layout s.columnNames))) = do
      let rows ← s.rows.mapM fun row =>
        s.columnNames.mapM fun column => tokens w (st.pieces (row.cell column).layout)
      return rows.map group := by
    rw [← mapM_map_result]
    exact mapM_congr fun row hrow => Row.tokens_layout (hfilled row hrow)
  rw [Store.pieces] at hnames
  simp only [Store.pieces] at hcells
  rw [Store.pieces, hlayout, tokens_unfolded_append, tokens_unfolded_joined]
  simp only [front, List.mapM_cons, List.mapM_nil, tokens_unfolded_word, htarget, hnames,
    tokens_unfolded_joined, List.mapM_map, Function.comp_def, hcells, bind_assoc, pure_bind,
    writeRows, Store.pieces, List.intercalate_cons_cons, List.intercalate_singleton]
  simp only [commaSeparated, List.append_assoc, List.cons_append, List.nil_append]

end Writing

/-! ## Values of cells -/

section Values

theorem Writing.mapM_ok {α β : Type} {f : α → Writing β} : {as : List α} → {bs : List β} →
    {before after : Progress} → (as.mapM f).run before = .ok bs after →
      List.Forall₂ (fun a b => ∃ start finish, (f a).run start = .ok b finish) as bs
  | [], _, _, _, h => by
      cases h
      exact .nil
  | a :: as, _, _, _, h => by
      rw [List.mapM_cons] at h
      obtain ⟨b, middle, hfirst, h⟩ := bind_ok h
      obtain ⟨bs, last, hrest, h⟩ := bind_ok h
      cases h
      exact .cons ⟨_, _, hfirst⟩ (mapM_ok hrest)

theorem Writing.bound_mapM {α β : Type} {f : α → Writing β} {as : List α} {bs : List β}
    {before after : Progress} (bound : α → List Value) (values : β → List Value)
    (h : (as.mapM f).run before = .ok bs after)
    (hf : ∀ a ∈ as, ∀ start finish b, (f a).run start = .ok b finish → values b = bound a) :
    bs.flatMap values = as.flatMap bound := by
  have hsteps := mapM_ok h
  clear h
  induction hsteps with
  | nil => rfl
  | cons hfirst hrest ih =>
      obtain ⟨start, finish, hfirst⟩ := hfirst
      rw [List.flatMap_cons, List.flatMap_cons, hf _ List.mem_cons_self _ _ _ hfirst,
        ih fun a ha => hf a (List.mem_cons_of_mem _ ha)]

theorem Token.values_text_cons (text : String) (written : List Token) :
    Token.values (.text text :: written) = Token.values written := rfl

theorem Token.values_group (parts : List (List Token)) :
    Token.values (group parts) = parts.flatMap Token.values := by
  rw [group, values_append, ← values_commaSeparated]
  exact List.append_nil _

variable {s : Insert} {st : Store} {w : Writer} {table : Name} {before after : Progress}
  {written : List Token}

theorem values_data {v : Value} (h : v.isData)
    (hwritten : (tokens w (st.pieces v.layout)).run before = .ok written after) :
    Token.values written = [v] := by
  have hpieces : st.pieces [.value v] = [.value v] := rfl
  rw [Value.layout_of_isData h, hpieces] at hwritten
  exact Writer.values_value hwritten

theorem values_identifier {name : Name}
    (hwritten : (tokens w [.identifier name]).run before = .ok written after) :
    Token.values written = [] := by
  rw [tokens_singleton] at hwritten
  obtain ⟨text, middle, -, hwritten⟩ := Writing.bind_ok hwritten
  cases hwritten
  rfl

theorem Insert.values_writeRows
    (hdata : ∀ row ∈ s.rows, ∀ column ∈ s.columnNames, (row.cell column).isData)
    (h : (s.writeRows st w table).run before = .ok written after) :
    Token.values written = s.rows.flatMap fun row => s.columnNames.map row.cell := by
  obtain ⟨target, _, htarget, h⟩ := Writing.bind_ok h
  obtain ⟨names, _, hnames, h⟩ := Writing.bind_ok h
  obtain ⟨rows, _, hrows, h⟩ := Writing.bind_ok h
  cases h
  have hnames : names.flatMap Token.values = [] := by
    rw [Writing.bound_mapM (fun _ => []) _ hnames fun _ _ _ _ _ hname => values_identifier hname]
    exact List.flatMap_eq_nil_iff.mpr fun _ _ => rfl
  have hcells : rows.flatMap (·.flatMap Token.values) =
      s.rows.flatMap fun row => s.columnNames.map row.cell := by
    refine Writing.bound_mapM _ _ hrows fun row hrow _ _ cells hrun => ?_
    rw [Writing.bound_mapM (fun column => [row.cell column]) _ hrun
      fun column hcolumn _ _ _ hcell => values_data (hdata row hrow column hcolumn) hcell]
    exact List.map_eq_flatMap.symm
  have hgroups : Token.values (commaSeparated (rows.map group)) =
      rows.flatMap (·.flatMap Token.values) := by
    rw [Token.values_commaSeparated, List.flatMap_map]
    exact List.flatMap_congr fun cells _ => Token.values_group cells
  simp only [Token.values_append, Token.values_text_cons, values_identifier htarget,
    Token.values_group, hnames, hgroups, hcells, List.append_nil, List.nil_append]

/-- Whatever has happened before, the pieces bind no values. -/
def Writer.BindsNothing (w : Writer) (pieces : List Piece) : Prop :=
  ∀ before written after, (tokens w pieces).run before = .ok written after →
    Token.values written = []

theorem Insert.values_layout (hfilled : s.IsFilled) (htable : s.table = some table)
    (hrows : s.rows ≠ [])
    (hdata : ∀ row ∈ s.rows, ∀ column ∈ s.columnNames, (row.cell column).isData)
    (hreturning : w.BindsNothing (st.pieces s.returningPieces))
    (h : (tokens w (st.pieces s.layout)).run before = .ok written after) :
    Token.values written = s.rows.flatMap fun row => s.columnNames.map row.cell := by
  rw [tokens_layout hfilled htable hrows] at h
  obtain ⟨rows, middle, hwritten, h⟩ := Writing.bind_ok h
  obtain ⟨returned, last, hreturned, h⟩ := Writing.bind_ok h
  cases h
  rw [Token.values_append, values_writeRows hdata hwritten, hreturning _ _ _ hreturned,
    List.append_nil]

end Values

/-! ### Positions -/

section Positions

variable {α β : Type} {f : α → List β} {as : List α} {m : Nat}

theorem getElem?_flatMap_of_length (hlength : ∀ a ∈ as, (f a).length = m) (i : Nat) {j : Nat}
    (hj : j < m) : (as.flatMap f)[i * m + j]? = as[i]?.bind fun a => (f a)[j]? := by
  induction as generalizing i with
  | nil => rfl
  | cons a as ih =>
      have hfirst := hlength a List.mem_cons_self
      have hrest := ih fun a ha => hlength a (List.mem_cons_of_mem _ ha)
      rw [List.flatMap_cons]
      cases i with
      | zero =>
          rw [Nat.zero_mul, Nat.zero_add, List.getElem?_append_left (hfirst.symm ▸ hj)]
          rfl
      | succ i =>
          have hpast : (i + 1) * m + j = i * m + j + m := by rw [Nat.succ_mul, Nat.add_right_comm]
          rw [hpast, List.getElem?_append_right (hfirst ▸ Nat.le_add_left ..), hfirst,
            Nat.add_sub_cancel, hrest i]
          rfl

theorem length_flatMap_of_length (hlength : ∀ a ∈ as, (f a).length = m) :
    (as.flatMap f).length = as.length * m := by
  rw [List.length_flatMap, List.map_congr_left hlength, List.map_const', List.sum_replicate_nat]

end Positions

/-! ## Reordered rows -/

/-- A mapping with its keys in another order. All other values stay as they are. -/
inductive Value.Reordered : Value → Value → Prop
  | same (v : Value) : Reordered v v
  | map {entries entries' : List (Value × Value)} (serial : Serial) :
      entries.Perm entries' → Reordered (.map entries serial) (.map entries' serial)

namespace Insert

/-- A call with the keys of its rows in other orders. -/
inductive Call.Reordered : Call → Call → Prop
  | same (c : Call) : Call.Reordered c c
  | row {given given' : Value} : given.Reordered given' →
      Call.Reordered (.rows given) (.rows given')
  | rows {given given' : Value} {items items' : List Value} :
      given.items? = some items → given'.items? = some items' →
      List.Forall₂ Value.Reordered items items' → Call.Reordered (.rows given) (.rows given')

/-- The same clauses, with the values of each row in an order of its own. -/
structure Reordered (s s' : Insert) : Prop where
  dialect : s.dialect = s'.dialect
  table : s.table = s'.table
  columns : s.columns = s'.columns
  rows : List.Forall₂ List.Perm s.rows s'.rows
  source : s.source = s'.source
  returning : s.returning = s'.returning

end Insert

/-! ### Checks that agree -/

/-- Two checks are both passed, with results that are related, or both failed. -/
def PassAlike {ε α β : Type} (R : α → β → Prop) : Except ε α → Except ε β → Prop
  | .ok a, .ok b => R a b
  | .error _, .error _ => True
  | _, _ => False

namespace PassAlike

variable {ε α β γ δ : Type} {R : α → β → Prop} {S : γ → δ → Prop}

theorem refl {R : α → α → Prop} (hR : ∀ a, R a a) (x : Except ε α) : PassAlike R x x := by
  cases x with
  | ok a => exact hR a
  | error cause => trivial

theorem bind {x : Except ε α} {y : Except ε β} {f : α → Except ε γ} {g : β → Except ε δ}
    (h : PassAlike R x y) (hf : ∀ a b, R a b → PassAlike S (f a) (g b)) :
    PassAlike S (x >>= f) (y >>= g) := by
  cases x with
  | ok a =>
      cases y with
      | ok b => exact hf a b h
      | error cause => exact h.elim
  | error cause =>
      cases y with
      | ok b => exact h.elim
      | error cause' => trivial

theorem bind_same {x : Except ε α} {f : α → Except ε γ} {g : α → Except ε δ}
    (hf : ∀ a, PassAlike S (f a) (g a)) : PassAlike S (x >>= f) (x >>= g) := by
  cases x with
  | ok a => exact hf a
  | error cause => trivial

theorem trans {R : α → α → Prop} {x y z : Except ε α} (h : PassAlike R x y)
    (hR : ∀ {a b c : α}, R a b → R b c → R a c) (h' : PassAlike R y z) : PassAlike R x z := by
  cases x with
  | ok a =>
      cases y with
      | ok b =>
          cases z with
          | ok c => exact hR h h'
          | error cause => exact h'.elim
      | error cause => exact h.elim
  | error cause =>
      cases y with
      | ok b => exact h.elim
      | error cause' =>
          cases z with
          | ok c => exact h'.elim
          | error cause'' => trivial

theorem mapM {f : α → Except ε γ} {g : β → Except ε δ} {as : List α} {bs : List β}
    (h : List.Forall₂ R as bs) (hf : ∀ a b, R a b → PassAlike S (f a) (g b)) :
    PassAlike (List.Forall₂ S) (as.mapM f) (bs.mapM g) := by
  induction h with
  | nil => exact List.Forall₂.nil
  | cons hfirst _ ih =>
      rw [List.mapM_cons, List.mapM_cons]
      exact (hf _ _ hfirst).bind fun c d hcd => ih.bind fun cs ds hrest => .cons hcd hrest

theorem mapM_perm {f : α → Except ε γ} {as bs : List α} (h : as.Perm bs) :
    PassAlike List.Perm (as.mapM f) (bs.mapM f) := by
  induction h with
  | nil => exact List.Perm.nil
  | cons a _ ih =>
      rw [List.mapM_cons, List.mapM_cons]
      exact bind_same fun c => ih.bind fun cs ds hrest => hrest.cons c
  | swap a b as =>
      simp only [List.mapM_cons]
      cases f a with
      | ok c =>
          cases f b with
          | ok d =>
              cases as.mapM f with
              | ok cs => exact List.Perm.swap c d cs
              | error cause => trivial
          | error cause => trivial
      | error cause =>
          cases f b with
          | ok d => trivial
          | error cause' => trivial
  | trans _ _ ih ih' => exact ih.trans List.Perm.trans ih'

end PassAlike

theorem Outcome.ofChecked_alike {σ : Type} {R : σ → σ → Prop} {s s' : σ}
    {checked checked' : Except ClauseError σ} (hs : R s s') (h : PassAlike R checked checked') :
    R (Outcome.ofChecked s checked).state (Outcome.ofChecked s' checked').state ∧
      (Outcome.ofChecked s checked).refusal.isSome =
        (Outcome.ofChecked s' checked').refusal.isSome := by
  cases checked with
  | ok after =>
      cases checked' with
      | ok after' => exact ⟨h, rfl⟩
      | error cause => exact h.elim
  | error cause =>
      cases checked' with
      | ok after' => exact h.elim
      | error cause' => exact ⟨hs, rfl⟩

/-! ### Reordered calls -/

theorem sameNames_perm {first first' second second' : List Name} (h : first.Perm first')
    (h' : second.Perm second') : sameNames first second = sameNames first' second' := by
  have hfirst (name : Name) : first.any (·.text = name.text) = first'.any (·.text = name.text) :=
    h.any_eq
  have hsecond (name : Name) : second.any (·.text = name.text) = second'.any (·.text = name.text) :=
    h'.any_eq
  simp only [sameNames, hfirst, hsecond, h.all_eq, h'.all_eq]

theorem checkRowsFrom_reordered {columns columns' : List Name} (hcolumns : columns.Perm columns')
    {rows rows' : List Row} (h : List.Forall₂ List.Perm rows rows') (start : Nat) :
    PassAlike (fun _ _ => True) (checkRowsFrom columns start rows)
      (checkRowsFrom columns' start rows') := by
  induction h generalizing start with
  | nil => trivial
  | @cons row row' rows rows' hrow _ ih =>
      have hsame : sameNames row.columns columns = sameNames row'.columns columns' :=
        sameNames_perm (hrow.map Prod.fst) hcolumns
      rw [checkRowsFrom, checkRowsFrom, hsame]
      split
      · exact ih (start + 1)
      · trivial

theorem rowOf_reordered {given given' : Value} (h : given.Reordered given') :
    PassAlike List.Perm (rowOf given) (rowOf given') := by
  cases h with
  | same => exact .refl List.Perm.refl _
  | @map entries entries' serial hentries =>
      cases entries with
      | nil =>
          obtain rfl := hentries.nil_eq
          trivial
      | cons entry rest =>
          cases entries' with
          | nil => cases hentries.eq_nil
          | cons other others => exact PassAlike.mapM_perm hentries

theorem rowArguments_of_items {given : Value} {items : List Value} (h : given.items? = some items) :
    rowArguments given = if items.isEmpty then .error (.rowsExpected given) else .ok items := by
  cases given with
  | list vs serial | tuple vs serial =>
      cases h
      cases items <;> rfl
  | _ => cases h

theorem rowArguments_reordered {given given' : Value}
    (h : (Insert.Call.rows given).Reordered (.rows given')) :
    PassAlike (List.Forall₂ Value.Reordered) (rowArguments given) (rowArguments given') := by
  have hsame (vs : List Value) : List.Forall₂ Value.Reordered vs vs :=
    List.forall₂_same.mpr fun v _ => .same v
  cases h with
  | same => exact .refl hsame _
  | row hrow =>
      cases hrow with
      | same => exact .refl hsame _
      | map serial hentries => exact List.Forall₂.cons (.map serial hentries) .nil
  | rows hitems hitems' hrows =>
      rw [rowArguments_of_items hitems, rowArguments_of_items hitems']
      cases hrows with
      | nil => trivial
      | cons hrow hrest => exact List.Forall₂.cons hrow hrest

namespace Insert

variable {s s' : Insert}

theorem Reordered.refl (s : Insert) : s.Reordered s where
  dialect := rfl
  table := rfl
  columns := rfl
  rows := List.forall₂_same.mpr fun row _ => .refl row
  source := rfl
  returning := rfl

theorem Reordered.columnNames (h : s.Reordered s') : s.columnNames.Perm s'.columnNames := by
  unfold Insert.columnNames
  rw [h.columns]
  split
  · have hrows := h.rows
    generalize s.rows = rows at hrows
    generalize s'.rows = rows' at hrows
    cases hrows with
    | nil => exact .nil
    | cons hrow _ => exact hrow.map Prod.fst
  · exact .refl _

theorem Reordered.setColumns (h : s.Reordered s') (arguments : List Value) :
    PassAlike Reordered (s.setColumns arguments) (s'.setColumns arguments) := by
  refine PassAlike.bind_same fun names => ?_
  split
  · trivial
  · exact (checkRowsFrom_reordered (.refl names) h.rows 0).bind fun _ _ _ =>
      { h with columns := rfl }

theorem Reordered.setRows (h : s.Reordered s') {given given' : Value}
    (hgiven : (Call.rows given).Reordered (.rows given')) :
    PassAlike Reordered (s.setRows given) (s'.setRows given') := by
  have hsource : s.source.isSome = s'.source.isSome := congrArg Option.isSome h.source
  unfold Insert.setRows
  rw [hsource]
  split
  · trivial
  · refine (rowArguments_reordered hgiven).bind fun arguments arguments' harguments => ?_
    refine (PassAlike.mapM harguments fun _ _ => rowOf_reordered).bind fun rows rows' hrows => ?_
    have hafter : Reordered { s with rows } { s' with rows := rows' } := { h with rows := hrows }
    exact (checkRowsFrom_reordered hafter.columnNames hrows 0).bind fun _ _ _ => hafter

theorem Reordered.isEmpty_eq (h : s.Reordered s') : s.rows.isEmpty = s'.rows.isEmpty := by
  have hrows := h.rows
  generalize s.rows = rows at hrows
  generalize s'.rows = rows' at hrows
  cases hrows <;> rfl

theorem Reordered.setSource (h : s.Reordered s') (subselect : Value) :
    PassAlike Reordered (s.setSource subselect) (s'.setSource subselect) := by
  unfold Insert.setSource
  rw [h.isEmpty_eq]
  cases !s'.rows.isEmpty with
  | true => trivial
  | false =>
      cases subselect.select? with
      | none => trivial
      | some id =>
          have hafter : Reordered { s with source := some id } { s' with source := some id } :=
            { h with source := rfl }
          exact hafter

/-- A call and one with its keys in other orders are both accepted or both refused, and leave the
same clauses but for the orders of the values. -/
theorem Reordered.call (h : s.Reordered s') {c c' : Call} (hc : c.Reordered c') :
    (s.call c).state.Reordered (s'.call c').state ∧
      (s.call c).refusal.isSome = (s'.call c').refusal.isSome := by
  have hrows {given given' : Value} (hgiven : (Call.rows given).Reordered (.rows given')) :=
    Outcome.ofChecked_alike h (h.setRows hgiven)
  cases hc with
  | row hrow => exact hrows (.row hrow)
  | rows hitems hitems' hall => exact hrows (.rows hitems hitems' hall)
  | same =>
      cases c with
      | table name =>
          exact Outcome.ofChecked_alike h <| PassAlike.bind_same fun name => { h with table := rfl }
      | columns arguments => exact Outcome.ofChecked_alike h (h.setColumns arguments)
      | rows given => exact hrows (.same _)
      | source subselect => exact Outcome.ofChecked_alike h (h.setSource subselect)
      | returning arguments =>
          exact Outcome.ofChecked_alike h <|
            PassAlike.bind_same fun columns => { h with returning := rfl }

theorem Reordered.afterCalls {calls calls' : List Call}
    (hcalls : List.Forall₂ Call.Reordered calls calls') (h : s.Reordered s') :
    (s.afterCalls calls).Reordered (s'.afterCalls calls') := by
  induction hcalls generalizing s s' with
  | nil => exact h
  | cons hfirst _ ih => exact ih (h.call hfirst).1

/-! ### Reordered rows in the layout -/

theorem value?_perm {row row' : Row} (h : row.Perm row')
    (hnodup : (row.columns.map Name.text).Nodup) (column : Name) :
    row.value? column = row'.value? column := by
  rw [Row.value?, Row.value?, List.find?_eq_find?_of_perm h]
  rintro first ⟨hfirst, hcolumn⟩ second ⟨hsecond, hcolumn'⟩
  rw [Row.columns, List.map_map] at hnodup
  exact List.inj_on_of_nodup_map hnodup hfirst hsecond
    ((of_decide_eq_true hcolumn).trans (of_decide_eq_true hcolumn').symm)

theorem Row.layout_perm {row row' : Row} (h : row.Perm row')
    (hnodup : (row.columns.map Name.text).Nodup) (columns : List Name) :
    row.layout columns = row'.layout columns := by
  have hcells : row.cellLayout = row'.cellLayout := by
    funext column
    rw [Row.cellLayout, Row.cellLayout, value?_perm h hnodup]
  rw [Row.layout, Row.layout, hcells]

theorem Reordered.columnNames_eq (h : s.Reordered s')
    (hfirst : s.columns ≠ [] ∨ s.rows.head? = s'.rows.head?) :
    s.columnNames = s'.columnNames := by
  have hwritten (s : Insert) : s.columnNames =
      if s.columns.isEmpty then (s.rows.head?.map Row.columns).getD [] else s.columns := by
    unfold Insert.columnNames
    cases s.rows <;> rfl
  rw [hwritten, hwritten, ← h.columns]
  rcases hfirst with hsome | hsame
  · have hcolumns : ¬ s.columns.isEmpty := by simpa using hsome
    rw [if_neg hcolumns, if_neg hcolumns]
  · rw [hsame]

/-- If the columns are written in the same order, the orders of the values do not show. -/
theorem Reordered.layout_eq (h : s.Reordered s') (hs : s.Agrees)
    (hfirst : s.columns ≠ [] ∨ s.rows.head? = s'.rows.head?) : s.layout = s'.layout := by
  have hnames := h.columnNames_eq hfirst
  have hrows : s.rows.map (Row.layout s.columnNames) =
      s'.rows.map (Row.layout s'.columnNames) := by
    rw [← hnames]
    have hall := h.rows
    have hnodup := hs.rows_nodup
    generalize s.rows = rows at hall hnodup
    generalize s'.rows = rows' at hall
    induction hall with
    | nil => rfl
    | cons hrow _ ih =>
        rw [List.map_cons, List.map_cons, Row.layout_perm hrow (hnodup _ List.mem_cons_self),
          ih fun row hmem => hnodup row (List.mem_cons_of_mem _ hmem)]
  unfold Insert.layout Insert.contents
  rw [h.table, h.returning, h.source, h.columns, h.isEmpty_eq, hrows, hnames]

/-! ## Cells in their places -/

/-- Whatever calls are made on an INSERT that has just been started: its rows are written one by one
as groups of cells, one for each column, found by its name, and cells that are plain values are
bound in this order. With the keys of the rows in other orders, the same calls are refused, and the
statement renders alike unless its columns are those of the first row. -/
theorem cells_in_place (dialect : Value) (calls : List Call)
    (hcalls : ∀ c ∈ calls, c.GivesMappings) :
    let s := Insert.afterCalls { dialect } calls
    (∀ table, s.table = some table → s.rows ≠ [] → s.IsFilled ∧
      (∀ (w : Writer) (sub : SelectId → Binding String),
        s.write w sub = s.writeCells w sub table) ∧
      (∀ (st : Store) (w : Writer),
        tokens w (st.pieces s.layout) = do
          let rows ← s.writeRows st w table
          let returned ← tokens w (st.pieces s.returningPieces)
          return rows ++ returned) ∧
      ∀ (st : Store) (id : InsertId) (inUse asked : Value) (before after : Progress)
        (rendered : Rendered), st.insert id = s →
        (∀ row ∈ s.rows, ∀ column ∈ s.columnNames, (row.cell column).isData) →
        (st.writer (st.text inUse) {} (st.activeDialect inUse asked (.insert id))).BindsNothing
          (st.pieces s.returningPieces) →
        (st.render inUse asked (.insert id)).run before = .ok rendered after →
          rendered.values.length = s.rows.length * s.columnNames.length ∧
            ∀ i j row column, s.rows[i]? = some row → s.columnNames[j]? = some column →
              rendered.values[i * s.columnNames.length + j]? = some (row.cell column)) ∧
    ∀ calls', List.Forall₂ Call.Reordered calls calls' →
      let s' := Insert.afterCalls { dialect } calls'
      (∀ c c', c.Reordered c' → (s.call c).refusal.isSome = (s'.call c').refusal.isSome) ∧
        (s.columns ≠ [] ∨ s.rows.head? = s'.rows.head? →
          ∀ (st : Store) (id : InsertId),
            (st.setInsert id s).RendersLike (st.setInsert id s')) := by
  intro s
  have hs : s.Agrees := (Agrees.start dialect).afterCalls hcalls
  constructor
  · intro table htable hrows
    refine ⟨hs.isFilled, write_eq_writeCells hs.isFilled htable hrows,
      fun st w => tokens_layout hs.isFilled htable hrows, ?_⟩
    intro st id inUse asked before after rendered hid hdata hreturning h
    rw [Store.render, Store.renderWith_run] at h
    have hlayout : st.layout (.insert id) = s.layout := congrArg Insert.layout hid
    rw [hlayout] at h
    split at h
    · rename_i written middle hwritten
      cases h
      have hvalues := values_layout hs.isFilled htable hrows hdata hreturning hwritten
      have hlength : ∀ row ∈ s.rows, (s.columnNames.map row.cell).length = s.columnNames.length :=
        fun row _ => List.length_map _
      show (Token.values written).length = _ ∧ ∀ _ _ _ _, _ → _ → (Token.values written)[_]? = _
      rw [hvalues]
      refine ⟨length_flatMap_of_length hlength, fun i j row column hrow hcolumn => ?_⟩
      obtain ⟨hj, -⟩ := List.getElem?_eq_some_iff.mp hcolumn
      rw [getElem?_flatMap_of_length hlength i hj, hrow, Option.bind_some, List.getElem?_map,
        hcolumn, Option.map_some]
    · cases h
  · intro calls' hreordered s'
    have hsame : s.Reordered s' := Reordered.afterCalls hreordered (.refl _)
    refine ⟨fun c c' hc => (hsame.call hc).2, fun hfirst st id => ?_⟩
    exact (st.setInsert_alike id (hsame.layout_eq hs hfirst) hsame.dialect).rendersLike

/-- Two rows, the second one with the keys `first` and `second`, and a fragment to return. -/
def twoRows (first second : Value × Value) : List Call :=
  let entry (column : String) (n : Int) : Value × Value := (.ofText column, .int n 0)
  [.table (.ofText "t"),
    .rows (.list [.map [entry "a" 1, entry "b" 2] 0, .map [first, second] 0] 0),
    .returning [.condition (.raw ⟨.plain "upper(a)", .tuple [] 0, 0⟩)]]

theorem cells_in_place_two_rows :
    let a : Value × Value := (.ofText "a", .int 3 0)
    let b : Value × Value := (.ofText "b", .int 4 0)
    let s := Insert.afterCalls {} (twoRows b a)
    let s' := Insert.afterCalls {} (twoRows a b)
    let st : Store := { inserts := [s] }
    let dialect := Value.dialect .standard 0
    (∃ rendered after,
      (st.render .null dialect (.insert ⟨0⟩)).run {} = .ok rendered after ∧
        rendered.text = "INSERT INTO t (a, b) VALUES ($1, $2), ($3, $4) RETURNING upper(a)" ∧
          rendered.values.length = 4 ∧ rendered.values[2]? = some (.int 3 0)) ∧
      (st.setInsert ⟨0⟩ s).render .null dialect (.insert ⟨0⟩) =
        (st.setInsert ⟨0⟩ s').render .null dialect (.insert ⟨0⟩) := by
  intro a b s s' st dialect
  have hcalls : ∀ c ∈ twoRows b a, c.GivesMappings := by
    simp [a, b, twoRows, Call.GivesMappings, Value.HasDistinctKeys, Value.items?, Value.alike,
      Value.ofText, Value.name?, Name.text]
  have hreordered : List.Forall₂ Call.Reordered (twoRows b a) (twoRows a b) := by
    refine .cons (.same _) (.cons (.rows rfl rfl ?_) (.cons (.same _) .nil))
    exact .cons (.same _) (.cons (.map 0 (.swap a b [])) .nil)
  obtain ⟨hwritten, hsame⟩ := cells_in_place .null (twoRows b a) hcalls
  obtain ⟨-, -, -, hrendered⟩ := hwritten (.plain "t") rfl (List.cons_ne_nil _ _)
  have hrenders := (hsame _ hreordered).2 (.inr rfl) st ⟨0⟩
  have hsound : (st.setInsert ⟨0⟩ s).isSound := by decide +kernel
  refine ⟨?_, hrenders.render_eq hsound rfl⟩
  have hgives : (st.render .null dialect (.insert ⟨0⟩)).gives {} fun rendered =>
      rendered.text = "INSERT INTO t (a, b) VALUES ($1, $2), ($3, $4) RETURNING upper(a)" := by
    decide +kernel
  obtain ⟨rendered, after, hok, htext⟩ := Writing.ok_of_gives hgives
  have hdata : ∀ row ∈ s.rows, ∀ column ∈ s.columnNames, (row.cell column).isData := by
    decide
  have hreturning : (st.writer (st.text .null) {} dialect).BindsNothing
      (st.pieces s.returningPieces) := by
    intro before written after hrun
    cases hrun
    rfl
  obtain ⟨hlength, hcell⟩ := hrendered st ⟨0⟩ .null dialect {} after rendered rfl hdata hreturning
    hok
  exact ⟨rendered, after, hok, of_decide_eq_true htext, hlength, hcell 1 0 _ _ rfl rfl⟩

end Insert

end SqlComposer
