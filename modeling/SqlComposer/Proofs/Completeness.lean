import SqlComposer.Proofs.Nesting

/-!
# Incomplete statements

A sound statement that reaches no cycle fails in one way only: a clause is missing that it cannot be
written without. The fragments that are made for it lose none of their parts.
-/

namespace SqlComposer

/-! ## Raw fragments -/

theorem interleave_eq_flatMap : {parts : List String} → {values : List (List Piece)} →
    parts.length = values.length + 1 →
      interleave parts values =
        (parts.zip (values ++ [[]])).flatMap fun both => .copied both.1 :: both.2
  | [_], [], _ => rfl
  | part :: next :: parts, value :: values, h => by
      have hrest : (next :: parts).length = values.length + 1 := Nat.succ.inj h
      rw [interleave, interleave_eq_flatMap hrest]
      rfl

theorem Raw.interleaved_eq_join : {parts : List String} → {values : List (Binding String)} →
    parts.length = values.length + 1 →
      Raw.interleaved parts values = do
        return String.join (← (parts.zip (values ++ [pure ""])).mapM fun both => do
          return both.1 ++ (← both.2))
  | [part], [], _ => by
      simp only [Raw.interleaved, List.nil_append, List.zip_cons_cons, List.zip_nil_right,
        List.mapM_cons, List.mapM_nil, pure_bind, String.join_cons, String.join_nil,
        String.append_empty]
  | part :: next :: parts, value :: values, h => by
      have hrest : (next :: parts).length = values.length + 1 := Nat.succ.inj h
      rw [Raw.interleaved, Raw.interleaved_eq_join hrest]
      simp only [List.cons_append, List.zip_cons_cons, List.mapM_cons, String.join_cons, bind_assoc,
        pure_bind, String.append_assoc]

theorem Value.tuple_of_collected? {given members : Value} (h : given.collected? = some members) :
    ∃ items serial, members = .tuple items serial := by
  unfold collected? at h
  split at h
  · cases h
    exact ⟨_, _, rfl⟩
  · cases h
  · cases h
  · cases h
  · obtain ⟨items, -, rfl⟩ := Option.map_eq_some_iff.mp h
    exact ⟨items, 0, rfl⟩

theorem Raw.exists_of_make {text values : Value} {fragment : Raw}
    (h : Raw.make text values = .ok fragment) :
    ∃ items serial, fragment.values = .tuple items serial ∧
      fragment.fragments.length = items.length + 1 := by
  unfold make at h
  split at h
  · rename_i members hmembers
    obtain ⟨items, serial, rfl⟩ := Value.tuple_of_collected? hmembers
    obtain ⟨name, hsize, rfl⟩ := assemble_ok h
    refine ⟨items, serial, rfl, ?_⟩
    rw [length_fragments]
    exact congrArg (· + 1) (Option.some.inj hsize).symm
  · cases h

theorem Value.length_layouts (items : List Value) :
    (Value.layouts items).length = items.length := by
  induction items with
  | nil => rfl
  | cons v items ih => exact congrArg (· + 1) ih

theorem Value.length_writes (w : Writer) (sub : SelectId → Binding String) (items : List Value) :
    (Value.writes w sub items).length = items.length := by
  induction items with
  | nil => rfl
  | cons v items ih => exact congrArg (· + 1) ih

/-- How a fragment is written in each of the places that it may have in a statement: as a condition,
as a value, and among expressions. -/
def Raw.placesWritten (fragment : Raw) (w : Writer) (sub : SelectId → Binding String) :
    List (Binding String) :=
  [(Condition.raw fragment).write w sub, (Value.condition (.raw fragment)).write w sub,
    (Column.raw fragment).write w sub]

/-- A fragment that is made is written with all parts of its text and all its values in turn,
wherever it stands. -/
theorem Raw.written_of_make {text values : Value} {fragment : Raw}
    (h : Raw.make text values = .ok fragment) (w : Writer) (sub : SelectId → Binding String) :
    ∀ write ∈ fragment.placesWritten w sub, write = do
      return String.join (← (fragment.fragments.zip
        (fragment.values.memberWrites w sub ++ [pure ""])).mapM fun both => do
          return both.1 ++ (← both.2)) := by
  obtain ⟨items, serial, hvalues, hlength⟩ := exists_of_make h
  have hwrites : fragment.fragments.length = (fragment.values.memberWrites w sub).length + 1 := by
    rw [hlength, hvalues, Value.memberWrites, Value.length_writes]
  have hwritten : fragment.write w sub =
      Raw.interleaved fragment.fragments (fragment.values.memberWrites w sub) := by
    cases fragment
    rfl
  have hall := hwritten.trans (interleaved_eq_join hwrites)
  simp only [placesWritten, List.forall_mem_cons]
  exact ⟨hall, hall, hall, nofun⟩

/-! ## What a statement lacks -/

/-- What an INSERT cannot be written without, with the message that says so. -/
def Insert.shortfall? (s : Insert) : Option (ClauseError × String) :=
  match s.table, s.rows, s.source with
  | none, _, _ =>
    some (.insertWithoutTable, "INSERT requires a target table; call into() first")
  | some _, [], none =>
    some (.insertWithoutRows, "INSERT requires either row values or a subselect")
  | _, _, _ => none

def Update.shortfall? (s : Update) : Option (ClauseError × String) :=
  match s.table, s.assignments with
  | none, _ => some (.updateWithoutTable, "UPDATE requires a target table")
  | some _, [] =>
    some (.updateWithoutAssignments,
      "UPDATE requires at least one SET assignment; call set() first")
  | some _, _ :: _ => none

def Delete.shortfall? (s : Delete) : Option (ClauseError × String) :=
  match s.table with
  | none => some (.deleteWithoutTable, "DELETE requires a target table")
  | some _ => none

namespace Store

variable {st : Store} {r : StatementRef}

/-- What keeps a statement from being written. A SELECT lacks nothing, and a bare statement is of no
kind that can be written. -/
def shortfall? (st : Store) : StatementRef → Option (ClauseError × String)
  | .bare _ =>
    some (.unknownStatement "QueryBuilder", "Cannot render statement of type QueryBuilder")
  | .select _ => none
  | .insert id => (st.insert id).shortfall?
  | .update id => (st.update id).shortfall?
  | .delete id => (st.delete id).shortfall?

theorem isComplete_of_shortfall (h : st.shortfall? r = none) : st.isComplete r := by
  cases r with
  | bare id => cases h
  | select id => rfl
  | insert id =>
      rw [shortfall?, Insert.shortfall?] at h
      rw [isComplete, Insert.isComplete]
      revert h
      cases (st.insert id).table with
      | none =>
          intro h
          cases h
      | some table =>
          cases (st.insert id).rows with
          | cons row rows => exact fun _ => rfl
          | nil => cases (st.insert id).source <;> simp
  | update id =>
      rw [shortfall?, Update.shortfall?] at h
      rw [isComplete, Update.isComplete]
      split at h <;> simp_all
  | delete id =>
      rw [shortfall?, Delete.shortfall?] at h
      rw [isComplete]
      split at h <;> simp_all

/-- What an incomplete statement comes to: its refusal, and nothing in front of it but the table of
an INSERT. -/
theorem pieces_of_shortfall {cause : ClauseError} {message : String}
    (h : st.shortfall? r = some (cause, message)) :
    st.pieces (st.layout r) = [.refused cause] ∨
      ∃ table, st.pieces (st.layout r) =
        [.word "INSERT INTO ", .identifier table, .word " ", .refused cause] := by
  cases r with
  | bare id =>
      cases h
      exact .inl rfl
  | select id => cases h
  | insert id =>
      rw [shortfall?, Insert.shortfall?] at h
      split at h
      · rename_i htable
        cases h
        rw [layout, Insert.layout, htable]
        exact .inl rfl
      · rename_i table htable hrows hsource
        cases h
        have hcontents : (st.insert id).contents = [[.refused .insertWithoutRows]] := by
          rw [Insert.contents, hrows, hsource]
          rfl
        rw [layout, Insert.layout, htable, hcontents]
        -- Nothing that stands behind the refusal is left.
        refine .inr ⟨table, ?_⟩
        cases returningLayout (st.insert id).returning <;> rfl
      · cases h
  | update id =>
      rw [shortfall?, Update.shortfall?] at h
      split at h
      · rename_i htable
        cases h
        rw [layout, Update.layout, htable]
        exact .inl rfl
      · rename_i htable hassignments
        cases h
        rw [layout, Update.layout, htable, hassignments]
        exact .inl rfl
      · cases h
  | delete id =>
      rw [shortfall?, Delete.shortfall?] at h
      split at h
      · rename_i htable
        cases h
        rw [layout, Delete.layout, htable]
        exact .inl rfl
      · cases h

theorem refuse_of_shortfall {α : Type} {cause : ClauseError} {message : String}
    (h : st.shortfall? r = some (cause, message)) (shown : Value → Writing String) :
    (Writing.refuse shown cause : Writing α) = throw (.clause cause message) := by
  cases r with
  | bare id =>
      cases h
      rfl
  | select id => cases h
  | insert id =>
      rw [shortfall?, Insert.shortfall?] at h
      split at h <;> cases h <;> rfl
  | update id =>
      rw [shortfall?, Update.shortfall?] at h
      split at h <;> cases h <;> rfl
  | delete id =>
      rw [shortfall?, Delete.shortfall?] at h
      split at h <;> cases h
      rfl

/-! ## Sound statements -/

section Sound

variable {P : List Piece → Prop} (hsound : st.isSound) (hP : Piecewise P)
  (hnested : P [.refused .nestedInItself])
include hsound hP hnested

/-- What holds piece by piece, and of a refusal for a cycle, holds of every sound SELECT. -/
theorem selectPieces_of_isSound (nesting : List SelectId) (id : SelectId) :
    P (st.selectPieces nesting id) := by
  induction nesting, id using st.nesting_induct with
  | step nesting id ih =>
      by_cases hfresh : id ∈ nesting
      · rw [selectPieces_nested hfresh]
        exact hnested
      · rw [selectPieces_fresh hfresh]
        have horderly : orderlyIn true (st.select id).layout :=
          Select.orderly_layout fun _ => isSound_select hsound id
        exact hP.unfolded _ horderly fun inner hinner => ih inner hfresh (refers_of_mem hinner)

/-- It then holds of every sound statement if it does of those that lack a clause. -/
theorem pieces_of_isSound
    (hlacking : ∀ {cause message}, st.shortfall? r = some (cause, message) →
      P (st.pieces (st.layout r))) : P (st.pieces (st.layout r)) := by
  cases h : st.shortfall? r with
  | none =>
      exact hP.unfolded _ (orderly_layout hsound (isComplete_of_shortfall h)) fun id _ =>
        selectPieces_of_isSound hsound hP hnested [] id
  | some shortfall => exact hlacking h

end Sound

/-! ## Outcomes -/

/-- After any calls with conditions from the functions that make them, refused or not, a statement
that reaches no cycle is written in a regular dialect unless it lacks a clause; it then fails with
the message about that clause. A fragment that is made is written with all parts of its text and all
its values in turn, wherever it stands. -/
theorem render_outcome :
    (∀ (start : Store) (calls : List Call) (inUse asked : Value) (r : StatementRef) (d : Dialect)
      (serial : Serial) (before : Progress),
      start.isSound → (∀ call ∈ calls, ∀ c, call.condition? = some c → c.Made) →
      let st := start.afterCalls calls
      st.activeDialect inUse asked r = .dialect d serial → d.isRegular → ¬ st.HasCycle r →
        match st.shortfall? r with
        | none => ∃ rendered after, (st.render inUse asked r).run before = .ok rendered after
        | some (cause, message) =>
          (st.render inUse asked r).run before = .error (.clause cause message) before) ∧
    ∀ (text values : Value) (fragment : Raw), Raw.make text values = .ok fragment →
      fragment.fragments.length = fragment.values.memberLayouts.length + 1 ∧
        (fragment.layout = (fragment.fragments.zip (fragment.values.memberLayouts ++ [[]])).flatMap
          fun both => .copied both.1 :: both.2) ∧
        ∀ (w : Writer) (sub : SelectId → Binding String), ∀ write ∈ fragment.placesWritten w sub,
          write = do
            return String.join (← (fragment.fragments.zip
              (fragment.values.memberWrites w sub ++ [pure ""])).mapM fun both => do
                return both.1 ++ (← both.2)) := by
  constructor
  · intro start calls inUse asked r d serial before hstart hcalls st hd hregular hfree
    have hsound : st.isSound := isSound_afterCalls hstart fun call hcall c hc =>
      (hcalls call hcall c hc).isChecked
    let w := st.writer (st.text inUse) {} (st.activeDialect inUse asked r)
    have hw : w.IsRegular := ⟨d, serial, hd, hregular⟩
    rw [render, renderWith_run]
    split
    · rename_i hnone
      obtain ⟨written, hwrites⟩ : w.Writes (st.pieces (st.layout r)) := by
        rcases writes_or_hasCycle hsound hw (isComplete_of_shortfall hnone) with
          ⟨hwrites, -⟩ | ⟨-, hcycle⟩
        · exact hwrites
        · exact absurd hcycle hfree
      rw [show tokens _ _ = _ from hwrites]
      exact ⟨_, _, rfl⟩
    · rename_i cause message hsome
      have hrefuse : (Writing.refuse w.shown cause : Writing (List Token)) =
          throw (.clause cause message) :=
        refuse_of_shortfall hsome w.shown
      have hfails : tokens w (st.pieces (st.layout r)) = throw (.clause cause message) := by
        rcases pieces_of_shortfall hsome with hpieces | ⟨table, hpieces⟩
        · rw [hpieces, tokens_singleton, Piece.tokens, hrefuse]
        · obtain ⟨text, htext⟩ := Writer.name_pure hw (·.identifierParts table)
          simp only [hpieces, tokens, hrefuse, Piece.tokens, Writer.identifier, htext, pure_bind]
          rfl
      rw [show tokens _ _ = _ from hfails]
      rfl
  · intro text values fragment hmake
    have hlength : fragment.fragments.length = fragment.values.memberLayouts.length + 1 := by
      obtain ⟨items, serial, hvalues, hlength⟩ := Raw.exists_of_make hmake
      rw [hlength, hvalues, Value.memberLayouts, Value.length_layouts]
    have hlayout : fragment.layout =
        interleave fragment.fragments fragment.values.memberLayouts := by
      cases fragment
      rfl
    exact ⟨hlength, hlayout.trans (interleave_eq_flatMap hlength), Raw.written_of_make hmake⟩

/-- An INSERT whose rows are refused and an UPDATE that is given everything but assignments. -/
def interruptedCalls : List Call :=
  [.insert ⟨0⟩ (.table (.ofText "t")), .insert ⟨0⟩ (.rows (.list [] 0)),
    .update ⟨0⟩ (.table (.ofText "t")),
    .update ⟨0⟩ (.rows (.ofText "a") (some (.int 1 0))),
    .select ⟨0⟩ (.rows (.condition (.isNull (.ofText "a") (.bool false) 0)) none)]

theorem render_outcome_interrupted :
    let st := afterCalls { selects := [{}], inserts := [{}], updates := [{}] } interruptedCalls
    (st.render .null .standardDialect (.insert ⟨0⟩)).run {} =
        .error (.clause .insertWithoutRows
          "INSERT requires either row values or a subselect") {} ∧
      (st.render .null .standardDialect (.update ⟨0⟩)).run {} =
        .error (.clause .updateWithoutAssignments
          "UPDATE requires at least one SET assignment; call set() first") {} ∧
      ∃ rendered after,
        (st.render .null .standardDialect (.select ⟨0⟩)).run {} = .ok rendered after := by
  intro st
  have hcalls : ∀ call ∈ interruptedCalls, ∀ c, call.condition? = some c → c.Made := by
    intro call hcall c hc
    simp only [interruptedCalls, List.mem_cons, List.not_mem_nil, or_false] at hcall
    rcases hcall with rfl | rfl | rfl | rfl | rfl <;> cases hc
    exact .null (show Condition.null (.ofText "a") false = .ok _ from rfl)
  have hselect : Acc (Function.swap st.Refers) ⟨0⟩ := by
    refine .intro _ fun inner hrefers => ?_
    cases hrefers
  have hfree (r : StatementRef) (hr : st.references r ⊆ [⟨0⟩]) : ¬ st.HasCycle r :=
    not_hasCycle_iff.mpr fun first hfirst => List.mem_singleton.mp (hr hfirst) ▸ hselect
  have houtcome (r : StatementRef)
      (hd : st.activeDialect .null .standardDialect r = .standardDialect)
      (hr : st.references r ⊆ [⟨0⟩]) :=
    render_outcome.1 { selects := [{}], inserts := [{}], updates := [{}] } interruptedCalls .null
      .standardDialect r .standard 1 {} rfl hcalls hd rfl (hfree r hr)
  exact ⟨houtcome (.insert ⟨0⟩) rfl (by decide), houtcome (.update ⟨0⟩) rfl (by decide),
    houtcome (.select ⟨0⟩) rfl (by decide)⟩

end Store

end SqlComposer
