import SqlComposer.Proofs.References
import SqlComposer.Proofs.Rendering
import SqlComposer.Proofs.Soundness

/-!
# SELECTs nested in themselves

Statements may refer to each other in any way: they are unfolded no deeper than there are SELECTs. A
sound and complete statement that reaches a SELECT which reaches itself is refused for that reason,
and any other one is written.
-/

namespace SqlComposer

open Relation

/-! ## Depth -/

namespace Store

/-- A SELECT inside those of `nesting`, unfolded so many levels deep and no deeper. What `limit`
gives stands for a SELECT below that. -/
def selectPiecesWithin (st : Store) (limit : SelectId → List Piece) :
    Nat → List SelectId → SelectId → List Piece
  | 0, _, id => limit id
  | depth + 1, nesting, id =>
    if id ∈ nesting then [.refused .nestedInItself]
    else unfolded (st.selectPiecesWithin limit depth (id :: nesting)) (st.select id).layout

theorem selectPiecesWithin_eq (st : Store) (limit : SelectId → List Piece) :
    (depth : Nat) → (nesting : List SelectId) → (id : SelectId) → st.remaining nesting < depth →
      st.selectPiecesWithin limit depth nesting id = st.selectPieces nesting id
  | depth + 1, nesting, id, h => by
      rw [selectPiecesWithin]
      by_cases hnested : id ∈ nesting
      · rw [if_pos hnested, selectPieces_nested hnested]
      · rw [if_neg hnested, selectPieces_fresh hnested]
        refine unfolded_congr _ fun inner hinner => ?_
        have hless := remaining_lt hnested (known_of_refers (refers_of_mem hinner))
        exact st.selectPiecesWithin_eq limit depth (id :: nesting) inner (by omega)

theorem remaining_nil (st : Store) : st.remaining [] = st.selects.length := by
  have hall : (List.range st.selects.length).filter (fun i => !([] : List SelectId).contains ⟨i⟩) =
      List.range st.selects.length :=
    List.filter_eq_self.mpr fun _ _ => rfl
  rw [remaining, hall, List.length_range]

/-- Nothing is ever unfolded deeper than there are SELECTs, and one level more where one of them is
met again. -/
theorem pieces_within (st : Store) (limit : SelectId → List Piece) (laidOut : List Piece) :
    st.pieces laidOut =
      unfolded (st.selectPiecesWithin limit (st.selects.length + 1) []) laidOut := by
  refine unfolded_congr _ fun id _ => (st.selectPiecesWithin_eq limit _ [] id ?_).symm
  rw [remaining_nil]
  exact Nat.lt_succ_self _

end Store

/-! ## Regular dialects -/

namespace Dialect

/-- Whether a dialect has a style for placeholders, and quotes that are texts if it has any. -/
def isRegular (d : Dialect) : Bool :=
  d.style?.isSome && d.hasPlainQuotes

end Dialect

/-! ## What holds piece by piece -/

/-- Whether a piece is written as it stands, with nothing else in it or in its place. -/
def Piece.isSimple : Piece → Bool
  | .word _ | .copied _ | .identifier _ | .reference _ | .ordering _ | .quoted _ | .value _
  | .count _ => true
  | _ => false

/-- A property of pieces that holds of all of them if it does of each simple one. -/
structure Piecewise (P : List Piece → Prop) : Prop where
  nil : P []
  append {front back : List Piece} : P front → P back → P (front ++ back)
  single (piece : Piece) : piece.isSimple → P [piece]
  late (name : Name) (behind : List Piece) : P behind → P [.lateIdentifier name behind]

namespace Piecewise

variable {P : List Piece → Prop} {sub : SelectId → List Piece}

mutual

theorem unfolded_piece (hP : Piecewise P) : (piece : Piece) → piece.isOrderly true →
    (∀ id ∈ piece.references, P (sub id)) → P (piece.unfolded sub)
  | .subselect id, _, h => h id (List.mem_singleton.mpr rfl)
  | .lateIdentifier name behind, horderly, h =>
      hP.late name _ (hP.unfolded behind horderly h)
  | .word _, _, _ | .copied _, _, _ | .identifier _, _, _ | .reference _, _, _
  | .ordering _, _, _ | .quoted _, _, _ | .value _, _, _ | .count _, _, _ => hP.single _ rfl

/-- It holds of what orderly pieces unfold to if it does of the SELECTs that they refer to. -/
theorem unfolded (hP : Piecewise P) : (pieces : List Piece) → orderlyIn true pieces →
    (∀ id ∈ referencesIn pieces, P (sub id)) → P (unfolded sub pieces)
  | [], _, _ => hP.nil
  | piece :: pieces, horderly, h => by
      rw [orderlyIn_cons, Bool.and_eq_true] at horderly
      simp only [referencesIn, List.mem_append] at h
      have hfirst := hP.unfolded_piece piece horderly.1 fun id hid => h id (.inl hid)
      have hrest := hP.unfolded pieces horderly.2 fun id hid => h id (.inr hid)
      rw [SqlComposer.unfolded]
      split
      · exact hfirst
      · exact hP.append hfirst hrest

end

end Piecewise

/-! ## Pieces that can be written -/

namespace Writer

/-- Whether a writer has a dialect, and a regular one. -/
def IsRegular (w : Writer) : Prop :=
  ∃ d serial, w.dialect = .dialect d serial ∧ d.isRegular

/-- Pieces are written without a fault, whatever has happened before, and nothing happens on the
way. -/
def Writes (w : Writer) (pieces : List Piece) : Prop :=
  ∃ written, tokens w pieces = pure written

/-- The fault of a SELECT that is nested in itself. -/
def nestedInItself : Fault :=
  .clause .nestedInItself "SELECT builder is nested inside itself; subselects must not form a cycle"

/-- Pieces are refused for a SELECT that is nested in itself, and nothing happens before. -/
def MeetsCycle (w : Writer) (pieces : List Piece) : Prop :=
  tokens w pieces = throw nestedInItself

theorem not_writes_of_meetsCycle {w : Writer} {pieces : List Piece} (h : w.MeetsCycle pieces) :
    ¬ w.Writes pieces := by
  rintro ⟨written, hwritten⟩
  have hrun := congrArg (·.run {}) (hwritten.symm.trans h)
  cases hrun

theorem meetsCycle_nested (w : Writer) : w.MeetsCycle [.refused .nestedInItself] := by
  rw [MeetsCycle, tokens_singleton]
  rfl

theorem spelled_pure (w : Writer) {d : Dialect} (hd : d.isRegular)
    (parts : List Identifier.NamePart) : w.spelled d parts = pure (d.spelled parts) := by
  rw [Dialect.isRegular, Bool.and_eq_true] at hd
  rw [spelled, if_pos hd.2]

section Regular

variable {w : Writer} (hw : w.IsRegular)
include hw

theorem dialectFor_pure : ∃ d, d.isRegular ∧ ∀ part, w.dialectFor part = pure d := by
  obtain ⟨d, serial, hdialect, hregular⟩ := hw
  refine ⟨d, hregular, fun part => ?_⟩
  simp only [dialectFor, hdialect]

theorem name_pure (parts : Dialect → List Identifier.NamePart) :
    ∃ text, w.name parts = pure text := by
  obtain ⟨d, hd, hdialect⟩ := dialectFor_pure hw
  exact ⟨d.spelled (parts d), by simp only [name, hdialect, pure_bind, w.spelled_pure hd]⟩

theorem token_pure (v : Value) : w.token v = pure (.bound v) := by
  obtain ⟨d, hd, hdialect⟩ := dialectFor_pure hw
  rw [Dialect.isRegular, Bool.and_eq_true] at hd
  simp only [token, binding, hdialect, pure_bind, hd.1, if_true]

theorem writes_name {piece : Piece} {parts : Dialect → List Identifier.NamePart}
    (h : piece.tokens w = do return [.text (← w.name parts)]) : w.Writes [piece] := by
  obtain ⟨text, htext⟩ := name_pure hw parts
  exact ⟨[.text text], by rw [tokens_singleton, h, htext]; rfl⟩

theorem writes_quoted (name : Name) : w.Writes [.quoted name] := by
  obtain ⟨d, hd, hdialect⟩ := dialectFor_pure hw
  refine ⟨[.text (d.spelled [.quoted name])], ?_⟩
  simp only [tokens_singleton, Piece.tokens, quoted, hdialect, pure_bind, w.spelled_pure hd]

theorem writes_value (v : Value) : w.Writes [.value v] :=
  ⟨[.bound v], by rw [tokens_singleton, Piece.tokens, token_pure hw]; rfl⟩

theorem writes_count (n : Nat) : w.Writes [.count n] := by
  obtain ⟨d, hd, hdialect⟩ := dialectFor_pure hw
  refine ⟨[if d.countsAreBound then .bound (.int n 0) else .text (toString n)], ?_⟩
  simp only [tokens_singleton, Piece.tokens, hdialect, pure_bind, token_pure hw]
  split <;> rfl

theorem piecewise_writes : Piecewise w.Writes where
  nil := ⟨[], rfl⟩
  append := by
    rintro front back ⟨first, hfirst⟩ ⟨rest, hrest⟩
    exact ⟨first ++ rest, by rw [tokens_append, hfirst, hrest]; rfl⟩
  single piece h := by
    cases piece with
    | word text | copied text => exact ⟨[.text text], tokens_singleton ..⟩
    | identifier name | reference name | ordering name => exact writes_name hw rfl
    | quoted name => exact writes_quoted hw name
    | value v => exact writes_value hw v
    | count n => exact writes_count hw n
    | _ => cases h
  late name behind := by
    rintro ⟨rest, hrest⟩
    obtain ⟨text, htext⟩ := name_pure hw (·.identifierParts name)
    refine ⟨.text text :: rest, ?_⟩
    rw [tokens_singleton, Piece.tokens, hrest, pure_bind, identifier, htext]
    rfl

end Regular

section Unfolded

variable {w : Writer} {sub : SelectId → List Piece}

mutual

theorem meetsCycle_unfolded_piece (hw : w.IsRegular) : (piece : Piece) → piece.isOrderly true →
    (∀ id ∈ piece.references, w.Writes (sub id) ∨ w.MeetsCycle (sub id)) →
    (∃ id ∈ piece.references, w.MeetsCycle (sub id)) → w.MeetsCycle (piece.unfolded sub)
  | .subselect id, _, _, h => by
      obtain ⟨other, hother, hmeets⟩ := h
      obtain rfl := List.mem_singleton.mp hother
      exact hmeets
  | .lateIdentifier name behind, horderly, heither, h => by
      have hbehind := meetsCycle_unfolded hw behind horderly heither h
      rw [Piece.unfolded, MeetsCycle, tokens_singleton, Piece.tokens, hbehind]
      rfl
  | .word _, _, _, ⟨_, h, _⟩ | .copied _, _, _, ⟨_, h, _⟩ | .identifier _, _, _, ⟨_, h, _⟩
  | .reference _, _, _, ⟨_, h, _⟩ | .ordering _, _, _, ⟨_, h, _⟩ | .quoted _, _, _, ⟨_, h, _⟩
  | .value _, _, _, ⟨_, h, _⟩ | .count _, _, _, ⟨_, h, _⟩ => nomatch h

/-- Orderly pieces are refused for a cycle if one of the SELECTs is that they refer to: what is in
front of it can be written. -/
theorem meetsCycle_unfolded (hw : w.IsRegular) : (pieces : List Piece) → orderlyIn true pieces →
    (∀ id ∈ referencesIn pieces, w.Writes (sub id) ∨ w.MeetsCycle (sub id)) →
    (∃ id ∈ referencesIn pieces, w.MeetsCycle (sub id)) → w.MeetsCycle (unfolded sub pieces)
  | [], _, _, ⟨_, h, _⟩ => nomatch h
  | piece :: pieces, horderly, heither, h => by
      rw [orderlyIn_cons, Bool.and_eq_true] at horderly
      simp only [referencesIn, List.mem_append] at heither h
      rw [MeetsCycle, tokens_unfolded_cons]
      by_cases hfirst : ∃ id ∈ piece.references, w.MeetsCycle (sub id)
      · have hpiece := meetsCycle_unfolded_piece hw piece horderly.1
          (fun id hid => heither id (.inl hid)) hfirst
        rw [hpiece]
        rfl
      · have hwrites : ∀ id ∈ piece.references, w.Writes (sub id) := fun id hid =>
          (heither id (.inl hid)).resolve_right fun hmeets => hfirst ⟨id, hid, hmeets⟩
        obtain ⟨first, hpiece⟩ := (piecewise_writes hw).unfolded_piece piece horderly.1 hwrites
        obtain ⟨id, hid, hmeets⟩ := h
        have hlater := hid.resolve_left fun hid => hfirst ⟨id, hid, hmeets⟩
        have hrest := meetsCycle_unfolded hw pieces horderly.2
          (fun id hid => heither id (.inr hid)) ⟨id, hlater, hmeets⟩
        rw [hpiece, pure_bind, hrest]
        rfl

end

theorem writes_or_meetsCycle (hw : w.IsRegular) {pieces : List Piece}
    (horderly : orderlyIn true pieces)
    (h : ∀ id ∈ referencesIn pieces, w.Writes (sub id) ∨ w.MeetsCycle (sub id)) :
    (w.Writes (unfolded sub pieces) ∧ ∀ id ∈ referencesIn pieces, w.Writes (sub id)) ∨
      w.MeetsCycle (unfolded sub pieces) ∧ ∃ id ∈ referencesIn pieces, w.MeetsCycle (sub id) := by
  by_cases hmeets : ∃ id ∈ referencesIn pieces, w.MeetsCycle (sub id)
  · exact .inr ⟨meetsCycle_unfolded hw pieces horderly h hmeets, hmeets⟩
  · have hwrites : ∀ id ∈ referencesIn pieces, w.Writes (sub id) := fun id hid =>
      (h id hid).resolve_right fun hcycle => hmeets ⟨id, hid, hcycle⟩
    exact .inl ⟨(piecewise_writes hw).unfolded pieces horderly hwrites, hwrites⟩

end Unfolded

end Writer

/-! ## Sound statements -/

namespace Store

section Sound

variable {st : Store} {w : Writer} (hsound : st.isSound) (hw : w.IsRegular)
include hsound hw

/-- A SELECT is written if its references come to an end. If it is refused, it reaches one that it
stands in, or a cycle. -/
theorem select_writes_or_meetsCycle (nesting : List SelectId) (id : SelectId) :
    (w.Writes (st.selectPieces nesting id) ∧ Acc (Function.swap st.Refers) id) ∨
      w.MeetsCycle (st.selectPieces nesting id) ∧
        ∃ other, ReflTransGen st.Refers id other ∧
          (other ∈ nesting ∨ TransGen st.Refers other other) := by
  induction nesting, id using st.nesting_induct with
  | step nesting id ih =>
      by_cases hnested : id ∈ nesting
      · rw [selectPieces_nested hnested]
        exact .inr ⟨w.meetsCycle_nested, id, .refl, .inl hnested⟩
      rw [selectPieces_fresh hnested]
      have horderly : orderlyIn true (st.select id).layout :=
        Select.orderly_layout fun _ => isSound_select hsound id
      have heither (inner : SelectId) (hinner : inner ∈ referencesIn (st.select id).layout) :=
        ih inner hnested (refers_of_mem hinner)
      rcases Writer.writes_or_meetsCycle hw horderly fun inner hinner =>
          (heither inner hinner).imp And.left And.left with
        ⟨hwrites, hall⟩ | ⟨hmeets, inner, hinner, hcycle⟩
      · refine .inl ⟨hwrites, .intro id fun inner hrefers => ?_⟩
        have hinner := mem_of_refers hrefers
        rcases heither inner hinner with ⟨-, hacc⟩ | ⟨hcycle, -⟩
        · exact hacc
        · exact absurd (hall inner hinner) (Writer.not_writes_of_meetsCycle hcycle)
      · refine .inr ⟨hmeets, ?_⟩
        have hrefers := refers_of_mem hinner
        rcases heither inner hinner with ⟨hwrites, -⟩ | ⟨-, other, hpath, hother⟩
        · exact absurd hwrites (Writer.not_writes_of_meetsCycle hcycle)
        rcases hother with hmem | hloop
        · rcases List.mem_cons.mp hmem with rfl | hmem
          · exact ⟨other, .refl, .inr (.head' hrefers hpath)⟩
          · exact ⟨other, .head hrefers hpath, .inl hmem⟩
        · exact ⟨other, .head hrefers hpath, .inr hloop⟩

/-- A complete statement is written, or it reaches a cycle and is refused for it. -/
theorem writes_or_hasCycle {r : StatementRef} (hr : st.isComplete r) :
    (w.Writes (st.pieces (st.layout r)) ∧ ¬ st.HasCycle r) ∨
      w.MeetsCycle (st.pieces (st.layout r)) ∧ st.HasCycle r := by
  have horderly := orderly_layout hsound hr
  have hreferences : referencesIn (st.layout r) = st.references r := by
    rcases st.referencesIn_layout r with h | ⟨cause, h⟩
    · exact h
    · rw [h] at horderly
      cases horderly
  have heither := select_writes_or_meetsCycle hsound hw []
  rcases Writer.writes_or_meetsCycle hw horderly fun id _ =>
      (heither id).imp And.left And.left with
    ⟨hwrites, hall⟩ | ⟨hmeets, first, hfirst, hcycle⟩
  · refine .inl ⟨hwrites, not_hasCycle_iff.mpr fun first hfirst => ?_⟩
    rw [← hreferences] at hfirst
    rcases heither first with ⟨-, hacc⟩ | ⟨hcycle, -⟩
    · exact hacc
    · exact absurd (hall first hfirst) (Writer.not_writes_of_meetsCycle hcycle)
  · refine .inr ⟨hmeets, ?_⟩
    rcases heither first with ⟨hwrites, -⟩ | ⟨-, other, hpath, hother⟩
    · exact absurd hwrites (Writer.not_writes_of_meetsCycle hcycle)
    · have hloop := hother.resolve_left List.not_mem_nil
      exact ⟨other, ⟨first, hreferences ▸ hfirst, hpath⟩, hloop⟩

end Sound

/-- However statements refer to each other, they are unfolded no deeper than there are SELECTs.
After calls with conditions from the functions that make them, a complete statement is refused as
nested in itself iff it reaches a SELECT that reaches itself, and else it is written, however often
a SELECT is used in it. -/
theorem detects_cycles :
    (∀ (st : Store) (limit : SelectId → List Piece) (laidOut : List Piece),
      st.pieces laidOut =
        unfolded (st.selectPiecesWithin limit (st.selects.length + 1) []) laidOut) ∧
    (∀ (st : Store) (limit : SelectId → List Piece) (w : Writer) (r : StatementRef),
      st.writeStatement w r =
        laidOut w (st.selectPiecesWithin limit (st.selects.length + 1) []) (st.layout r)) ∧
    (∀ c : Condition, c.Made → c.isChecked) ∧
    ∀ (start : Store) (calls : List Call) (inUse asked : Value) (r : StatementRef) (d : Dialect)
      (serial : Serial) (before : Progress),
      start.isSound → (∀ call ∈ calls, ∀ c, call.condition? = some c → c.isChecked) →
      let st := start.afterCalls calls
      st.activeDialect inUse asked r = .dialect d serial → d.isRegular → st.isComplete r →
        ((∃ after, (st.render inUse asked r).run before =
            .error (.clause .nestedInItself
              "SELECT builder is nested inside itself; subselects must not form a cycle") after) ↔
          st.HasCycle r) ∧
        (¬ st.HasCycle r →
          ∃ rendered after, (st.render inUse asked r).run before = .ok rendered after) := by
  refine ⟨pieces_within, fun st limit w r => ?_, fun c => Condition.Made.isChecked, ?_⟩
  · rw [writeStatement_eq]
    exact congrArg (fun pieces => Binding.numbered w.dialect.asDialect (tokens w pieces))
      (st.pieces_within limit (st.layout r))
  intro start calls inUse asked r d serial before hstart hcalls st hd hregular hr
  have hsound : st.isSound := isSound_afterCalls hstart hcalls
  let w := st.writer (st.text inUse) {} (st.activeDialect inUse asked r)
  have hw : w.IsRegular := ⟨d, serial, hd, hregular⟩
  rw [render, renderWith_run]
  rcases writes_or_hasCycle hsound hw hr with ⟨⟨written, hwrites⟩, hfree⟩ | ⟨hmeets, hcycle⟩
  · have hrun : (tokens w (st.pieces (st.layout r))).run before = .ok written before := by
      rw [hwrites]
      rfl
    rw [hrun]
    refine ⟨⟨?_, fun hcycle => absurd hcycle hfree⟩, fun _ => ⟨_, _, rfl⟩⟩
    rintro ⟨after, hfault⟩
    cases hfault
  · have hrun : (tokens w (st.pieces (st.layout r))).run before =
        .error Writer.nestedInItself before := by
      rw [hmeets]
      rfl
    rw [hrun]
    exact ⟨⟨fun _ => hcycle, fun _ => ⟨before, rfl⟩⟩, fun hfree => absurd hcycle hfree⟩

/-- Two SELECTs that are nested in each other, and one that is used three times in another one. -/
def nestingCalls : List Call :=
  let statement (index : Nat) : Value := .statement (.select ⟨index⟩)
  [.select ⟨0⟩ (.rows (.condition (.membership (.ofText "a") (statement 1) 0)) none),
    .select ⟨1⟩ (.columns [statement 0]),
    .select ⟨2⟩ (.source (.ofText "t") .null),
    .select ⟨3⟩ (.columns [statement 2, statement 2]),
    .select ⟨3⟩ (.rows (.condition (.existence (statement 2) (.bool false) 0)) none)]

theorem detects_cycles_calls :
    let st := Store.afterCalls { selects := [{}, {}, {}, {}] } nestingCalls
    st.HasCycle (.select ⟨0⟩) ∧ ¬ st.HasCycle (.select ⟨3⟩) ∧ ∃ rendered after,
      (st.render .null .standardDialect (.select ⟨3⟩)).run {} = .ok rendered after := by
  intro st
  have hcalls : ∀ call ∈ nestingCalls, ∀ c, call.condition? = some c → c.isChecked := by
    intro call hcall c hc
    simp only [nestingCalls, List.mem_cons, List.not_mem_nil, or_false] at hcall
    rcases hcall with rfl | rfl | rfl | rfl | rfl <;> cases hc <;> rfl
  have hdetects (index : Nat) :=
    detects_cycles.2.2.2 { selects := [{}, {}, {}, {}] } nestingCalls .null .standardDialect
      (.select ⟨index⟩) .standard 1 {} rfl hcalls rfl rfl rfl
  have hnested : ¬ (st.render .null .standardDialect (.select ⟨0⟩)).succeeds {} := by
    decide +kernel
  have hshared : (st.render .null .standardDialect (.select ⟨3⟩)).succeeds {} := by
    decide +kernel
  have hcycle : st.HasCycle (.select ⟨0⟩) := by
    refine Classical.byContradiction fun hfree => hnested ?_
    exact Writing.succeeds_iff.mpr ((hdetects 0).2 hfree)
  have hfree : ¬ st.HasCycle (.select ⟨3⟩) := by
    intro hcycle
    obtain ⟨after, hfault⟩ := (hdetects 3).1.mpr hcycle
    obtain ⟨rendered, last, hrun⟩ := Writing.succeeds_iff.mp hshared
    cases hfault.symm.trans hrun
  exact ⟨hcycle, hfree, (hdetects 3).2 hfree⟩

end Store

end SqlComposer
