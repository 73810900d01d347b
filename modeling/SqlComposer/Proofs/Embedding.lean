import SqlComposer.Proofs.BoundValues
import SqlComposer.Proofs.Placeholders
import SqlComposer.Proofs.References
import SqlComposer.Proofs.Sequence

/-!
# Statements inside other ones

A SELECT or a condition is the same template wherever it is written: behind values that are bound
already, its placeholders count on from them and its values follow them. So each SELECT inside a
statement shows up there as it is written on its own, with its values in one block.
-/

namespace SqlComposer

open Relation

/-! ## Rendering in a context -/

def Part.references : Part → List SelectId
  | .select id => [id]
  | .condition c => c.references

theorem Part.referencesIn_layout (part : Part) : referencesIn part.layout = part.references := by
  cases part with
  | select id => rfl
  | condition c => exact c.referencesIn_layout

namespace Store

/-- The tokens of a part inside the SELECTs of `nesting`. -/
def partTokens (st : Store) (inUse dialect : Value) (nesting : List SelectId) (part : Part) :
    Writing (List Token) :=
  tokens (st.writer (st.text inUse) {} dialect) (unfolded (st.selectPieces nesting) part.layout)

/-- A part as it is written on its own. -/
def renderAlone (st : Store) (inUse dialect : Value) : Part → Writing Rendered
  | .select id => st.render inUse dialect (.select id)
  | .condition c => st.renderCondition inUse dialect (.list [] 0) (.condition c)

theorem renderAlone_ok {st : Store} {inUse : Value} {d : Dialect} {serial : Serial} {part : Part}
    {before after : Progress} {rendered : Rendered}
    (h : (st.renderAlone inUse (.dialect d serial) part).run before = .ok rendered after) :
    ∃ written middle,
      (st.partTokens inUse (.dialect d serial) [] part).run before = .ok written middle ∧
        rendered = .ofTokens (.dialect d serial) [] written := by
  cases part with
  | select id => exact tokens_of_render h
  | condition c =>
      rw [renderAlone, renderCondition_nil, renderInside_eq] at h
      obtain ⟨written, middle, hwritten, h⟩ := Writing.bind_ok h
      cases h
      exact ⟨written, _, hwritten, rfl⟩

theorem renderInside_run {st : Store} {inUse dialect : Value} {context : Context} {part : Part}
    {before after : Progress} {written : List Token}
    (h : (st.partTokens inUse dialect context.nesting part).run before = .ok written after) :
    (st.renderInside inUse dialect context part).run before =
      .ok (.ofTokens dialect context.bound written) after := by
  rw [partTokens] at h
  rw [renderInside_eq, renderPieces, Writing.bind_run, h]
  rfl

/-- A part refers to a SELECT, or to one that reaches it. -/
def PartReaches (st : Store) (part : Part) (id : SelectId) : Prop :=
  ∃ first ∈ part.references, ReflTransGen st.Refers first id

/-- A part comes to the same tokens inside of any SELECTs that it does not reach. -/
theorem partTokens_nesting {st : Store} {nesting : List SelectId} {part : Part}
    (h : ∀ id ∈ nesting, ¬ st.PartReaches part id) (inUse dialect : Value) :
    st.partTokens inUse dialect nesting part = st.partTokens inUse dialect [] part := by
  have hsame : unfolded (st.selectPieces nesting) part.layout =
      unfolded (st.selectPieces []) part.layout := by
    refine unfolded_congr _ fun first hfirst => selectPieces_congr fun other hother => ?_
    rw [part.referencesIn_layout] at hfirst
    have hfresh : other ∉ nesting := fun hmem => h other hmem ⟨first, hfirst, hother⟩
    simp only [hfresh, List.not_mem_nil]
  rw [partTokens, partTokens, hsame]

end Store

/-! ## Blocks of tokens -/

/-- The tokens have a block for each of the SELECTs, in the same order, with other tokens between
them. -/
inductive Blocks (own : SelectId → List Token → Prop) : List SelectId → List Token → Prop
  | rest (written : List Token) : Blocks own [] written
  | block {id : SelectId} {ids : List SelectId} (front : List Token) {block back : List Token} :
      own id block → Blocks own ids back → Blocks own (id :: ids) (front ++ block ++ back)

namespace Blocks

variable {own : SelectId → List Token → Prop} {ids ids' : List SelectId}

theorem single {id : SelectId} {block : List Token} (h : own id block) : Blocks own [id] block := by
  have hblock := Blocks.block [] h (Blocks.rest [])
  rwa [List.append_nil] at hblock

theorem behind (front : List Token) {written : List Token} (h : Blocks own ids written) :
    Blocks own ids (front ++ written) := by
  cases h with
  | rest => exact .rest _
  | block between hown hback =>
      have hblock := Blocks.block (front ++ between) hown hback
      simpa only [List.append_assoc] using hblock

theorem append {written written' : List Token} (h : Blocks own ids written)
    (h' : Blocks own ids' written') : Blocks own (ids ++ ids') (written ++ written') := by
  induction h with
  | rest => exact h'.behind _
  | block front hown _ ih =>
      have hblock := Blocks.block front hown ih
      simpa only [List.append_assoc, List.cons_append] using hblock

theorem of_mem {written : List Token} (h : Blocks own ids written) {id : SelectId}
    (hid : id ∈ ids) : ∃ block, own id block := by
  induction h with
  | rest => cases hid
  | block front hown _ ih =>
      rcases List.mem_cons.mp hid with rfl | hid
      · exact ⟨_, hown⟩
      · exact ih hid

end Blocks

theorem not_written_refused {w : Writer} {before after : Progress} {written : List Token}
    (cause : ClauseError) : (tokens w [.refused cause]).run before ≠ .ok written after := by
  intro h
  rw [tokens_singleton] at h
  obtain ⟨fault, last, hfault⟩ := Writing.refuse_run w.shown cause before
  cases h.symm.trans hfault

/-- What a SELECT is replaced with is written as the given tokens, from some progress on. -/
def Writer.WritesBlock (w : Writer) (sub : SelectId → List Piece) (id : SelectId)
    (block : List Token) : Prop :=
  allPass Piece.isStreamless (sub id) ∧
    ∃ before after, (tokens w (sub id)).run before = .ok block after

section Blocks

variable {w : Writer} {sub : SelectId → List Piece}

mutual

theorem blocks_unfolded_piece : (piece : Piece) → {before after : Progress} →
    {written : List Token} → allPass Piece.isStreamless (piece.unfolded sub) →
      (tokens w (piece.unfolded sub)).run before = .ok written after →
        Blocks (w.WritesBlock sub) piece.references written
  | .subselect id, before, after, _, hstreams, h => .single ⟨hstreams, before, after, h⟩
  | .streamed _ _, _, _, _, hstreams, _ => nomatch hstreams
  | .unnamed column behind, _, _, _, hstreams, h => by
      rw [Piece.unfolded, tokens_singleton] at h
      obtain ⟨d, middle, -, h⟩ := Writing.bind_ok h
      split at h
      · obtain ⟨_, _, hthrow, -⟩ := Writing.bind_ok h
        cases hthrow
      · obtain ⟨rest, last, hrest, h⟩ := Writing.bind_ok h
        obtain ⟨text, latest, -, h⟩ := Writing.bind_ok h
        cases h
        have hbehind := (Bool.and_true _).symm.trans hstreams
        exact (blocks_unfolded behind hbehind hrest).behind [.text text]
  | .lateIdentifier name behind, _, _, _, hstreams, h => by
      rw [Piece.unfolded, tokens_singleton] at h
      obtain ⟨rest, middle, hrest, h⟩ := Writing.bind_ok h
      obtain ⟨text, last, -, h⟩ := Writing.bind_ok h
      cases h
      have hbehind := (Bool.and_true _).symm.trans hstreams
      exact (blocks_unfolded behind hbehind hrest).behind [.text text]
  | .word _, _, _, _, _, _ | .copied _, _, _, _, _, _ | .identifier _, _, _, _, _, _
  | .reference _, _, _, _, _, _ | .ordering _, _, _, _, _, _ | .quoted _, _, _, _, _, _
  | .value _, _, _, _, _, _ | .count _, _, _, _, _, _ | .display _, _, _, _, _, _
  | .refused _, _, _, _, _, _ => .rest _

/-- Pieces that are written have a block for each SELECT that they refer to. -/
theorem blocks_unfolded : (pieces : List Piece) → {before after : Progress} →
    {written : List Token} → allPass Piece.isStreamless (unfolded sub pieces) →
      (tokens w (unfolded sub pieces)).run before = .ok written after →
        Blocks (w.WritesBlock sub) (referencesIn pieces) written
  | [], _, _, written, _, _ => .rest written
  | piece :: pieces, before, _, _, hstreams, h => by
      rw [tokens_unfolded_cons] at h
      obtain ⟨first, middle, hfirst, h⟩ := Writing.bind_ok h
      obtain ⟨rest, last, hrest, h⟩ := Writing.bind_ok h
      cases h
      have hend : ¬ endsRefused (piece.unfolded sub) := fun hend => by
        obtain ⟨fault, after, hfault⟩ := fails_of_endsRefused w hend before
        cases hfirst.symm.trans hfault
      rw [unfolded, if_neg hend, allPass_append, Bool.and_eq_true] at hstreams
      exact (blocks_unfolded_piece piece hstreams.1 hfirst).append
        (blocks_unfolded pieces hstreams.2 hrest)

end

end Blocks

/-! ## SELECTs inside of written ones -/

namespace Store

variable {st : Store} {w : Writer}

theorem not_mem_of_written {id other : SelectId} (hpath : ReflTransGen st.Refers id other) :
    {nesting : List SelectId} → {block : List Token} →
      w.WritesBlock (st.selectPieces nesting) id block → other ∉ nesting := by
  induction hpath using ReflTransGen.head_induction_on with
  | refl =>
      rintro nesting block ⟨-, before, after, hrun⟩ hnested
      rw [selectPieces_nested hnested] at hrun
      exact not_written_refused _ hrun
  | head hrefers hpath ih =>
      rename_i id inner
      rintro nesting block ⟨hstreams, before, after, hrun⟩
      by_cases hnested : id ∈ nesting
      · rw [selectPieces_nested hnested] at hrun
        exact absurd hrun (not_written_refused _)
      · rw [selectPieces_fresh hnested] at hstreams hrun
        have hblocks := blocks_unfolded _ hstreams hrun
        obtain ⟨inside, hinside⟩ := hblocks.of_mem (mem_of_refers hrefers)
        exact fun hmem => ih hinside (List.mem_cons_of_mem _ hmem)

theorem selectPieces_of_written {nesting : List SelectId} {id : SelectId} {block : List Token}
    (h : w.WritesBlock (st.selectPieces nesting) id block) :
    st.selectPieces nesting id = st.selectPieces [] id :=
  selectPieces_congr fun other hother => by
    simp only [not_mem_of_written hother h, List.not_mem_nil]

end Store

/-! ## Text -/

/-- A text and its values, behind so many values that are bound already, show each of the SELECTs in
order: a part of the text in front of it, then the SELECT as its own template, its placeholders
counted on from the values in front of it, with its own values in one block. -/
inductive Shows (d : Dialect) (own : SelectId → Template → Prop) :
    Nat → List SelectId → String → List Value → Prop
  | rest (count : Nat) (text : String) (values : List Value) : Shows d own count [] text values
  | block {id : SelectId} {ids : List SelectId} {template : Template} {text : String}
      {values : List Value} (count : Nat) (front : String) (prior : List Value) :
      own id template →
      Shows d own (count + prior.length + template.values.length) ids text values →
      Shows d own count (id :: ids)
        (front ++ template.textFrom d (count + prior.length) ++ text)
        (prior ++ template.values ++ values)

theorem Blocks.shows {d : Dialect} {own : SelectId → List Token → Prop}
    {own' : SelectId → Template → Prop}
    (hown : ∀ {id block}, own id block → own' id (.ofTokens "" block))
    {ids : List SelectId} {written : List Token} (h : Blocks own ids written) (count : Nat) :
    Shows d own' count ids (Token.textFrom d count written) (Token.values written) := by
  induction h generalizing count with
  | rest => exact .rest ..
  | block front hblock _ ih =>
      rename_i block back _
      have htext : Token.textFrom d count (front ++ block ++ back) =
          Token.textFrom d count front ++
            (Template.ofTokens "" block).textFrom d (count + (Token.values front).length) ++
            Token.textFrom d
              (count + (Token.values front).length + (Token.values block).length) back := by
        rw [Token.textFrom_append, Token.textFrom_append, Template.textFrom_ofTokens,
          String.empty_append, Token.values_append, List.length_append, Nat.add_assoc]
      rw [htext, Token.values_append, Token.values_append, ← Template.values_ofTokens "" block]
      exact .block count _ _ (hown hblock) (ih _)

/-! ## Statements -/

namespace Store

variable {st : Store}

theorem blocks_pieces {w : Writer} {r : StatementRef} {before after : Progress}
    {written : List Token} (hstreams : st.isStreamless r)
    (h : (tokens w (st.pieces (st.layout r))).run before = .ok written after) :
    Blocks (w.WritesBlock (st.selectPieces (own r))) (st.clauses r).references written := by
  rw [isStreamless, pieces_layout] at hstreams
  rw [pieces_layout] at h
  rcases (st.clauses r).referencesIn_layout with hreferences | ⟨cause, hrefused⟩
  · rw [← hreferences]
    exact blocks_unfolded _ hstreams h
  · rw [hrefused] at h
    exact absurd h (not_written_refused cause)

theorem render_of_block {inUse : Value} {d : Dialect} {serial : Serial}
    {nesting : List SelectId} {id : SelectId} {block : List Token}
    (h : (st.writer (st.text inUse) {} (.dialect d serial)).WritesBlock
      (st.selectPieces nesting) id block) :
    ∃ before after, (st.render inUse (.dialect d serial) (.select id)).run before =
      .ok (.ofTokens (.dialect d serial) [] block) after := by
  have hsame := selectPieces_of_written h
  obtain ⟨-, before, after, hrun⟩ := h
  refine ⟨before, ?_⟩
  have hactive : st.activeDialect inUse (.dialect d serial) (.select id) = .dialect d serial := rfl
  have hpieces : st.pieces (st.layout (.select id)) = st.selectPieces nesting id := by
    rw [pieces_layout, hsame, selectPieces_fresh List.not_mem_nil]
    rfl
  rw [render, renderWith_run, hactive, hpieces, hrun]
  exact ⟨_, rfl⟩

/-- What can be written on its own is the same template wherever it is written, unless it reaches a
SELECT that it stands in: it leaves the values that are bound already alone, counts on from them and
adds its own. So each SELECT in a statement shows up as it is written on its own, with its values in
one block. That it takes no items from a stream holds of every sound statement
(`isStreamless_of_isSound`). -/
theorem render_compositional (st : Store) (inUse : Value) (d : Dialect) (serial : Serial) :
    let dialect := Value.dialect d serial
    (∀ (part : Part) (context : Context) (before after : Progress) (text : String)
        (values : List Value),
      (st.renderAlone inUse dialect part).run before = .ok ⟨text, values, dialect⟩ after →
      (∀ id ∈ context.nesting, ¬ st.PartReaches part id) →
        ∃ template : Template, ∃ last,
          text = template.textFrom d 0 ∧ values = template.values ∧
          (st.renderInside inUse dialect context part).run before =
            .ok ⟨template.textFrom d context.bound.length, context.bound ++ values, dialect⟩
              last) ∧
      (d.style?.isSome → ∀ (bound : List Value) (serial' : Serial) (c : Condition),
        st.renderCondition inUse dialect (.list bound serial') (.condition c) =
          st.renderInside inUse dialect { bound } (.condition c)) ∧
      ∀ (asked : Value) (r : StatementRef) (before after : Progress) (rendered : Rendered),
        st.isStreamless r → st.activeDialect inUse asked r = dialect →
        (st.render inUse asked r).run before = .ok rendered after →
          Shows d
            (fun id template => ∃ before after,
              (st.render inUse dialect (.select id)).run before =
                .ok ⟨template.textFrom d 0, template.values, dialect⟩ after)
            0 (st.clauses r).references rendered.text rendered.values := by
  intro dialect
  have htemplate (written : List Token) (bound : List Value) :
      Rendered.ofTokens dialect bound written =
        ⟨(Template.ofTokens "" written).textFrom d bound.length,
          bound ++ (Template.ofTokens "" written).values, dialect⟩ := by
    rw [Template.textFrom_ofTokens, String.empty_append, Template.values_ofTokens]
    rfl
  refine ⟨?_, ?_, ?_⟩
  · intro part context before after text values h hapart
    obtain ⟨written, last, hrun, hrendered⟩ := renderAlone_ok h
    rw [htemplate] at hrendered
    cases hrendered
    refine ⟨.ofTokens "" written, last, rfl, rfl, ?_⟩
    rw [← partTokens_nesting hapart] at hrun
    rw [renderInside_run hrun, htemplate]
    rfl
  · exact fun hstyle bound serial' c =>
      st.renderCondition_eq_renderInside inUse hstyle serial serial' bound c
  · intro asked r before after rendered hstreams hactive h
    rw [render, renderWith_run, hactive] at h
    split at h
    · rename_i written middle hwritten
      cases h
      refine (blocks_pieces hstreams hwritten).shows (fun {id block} hblock => ?_) 0
      obtain ⟨start, finish, hrun⟩ := render_of_block hblock
      rw [htemplate] at hrun
      exact ⟨start, finish, hrun⟩
    · cases h

theorem render_compositional_nested :
    let dialect := Value.dialect .standard 0
    let c : Condition := .membership (.ofText "a") (.statement (.select ⟨0⟩)) 0
    (∃ template : Template, ∃ last,
      (nestedSelects.renderInside .null dialect ⟨[.int 7 0], [⟨1⟩]⟩ (.select ⟨0⟩)).run {} =
        .ok ⟨template.textFrom .standard 1, .int 7 0 :: template.values, dialect⟩ last) ∧
      (∃ template : Template, ∃ last,
        (nestedSelects.renderCondition .null dialect (.list [.int 7 0] 0) (.condition c)).run {} =
          .ok ⟨template.textFrom .standard 1, .int 7 0 :: template.values, dialect⟩ last) ∧
      ∃ rendered after, (nestedSelects.render .null dialect (.select ⟨1⟩)).run {} =
        .ok rendered after ∧
          Shows .standard
            (fun id template => ∃ before after,
              (nestedSelects.render .null dialect (.select id)).run before =
                .ok ⟨template.textFrom .standard 0, template.values, dialect⟩ after)
            0 [⟨0⟩, ⟨0⟩, ⟨0⟩, ⟨0⟩] rendered.text rendered.values := by
  intro dialect c
  have hapart : ∀ id ∈ [⟨1⟩], ¬ nestedSelects.PartReaches (.select ⟨0⟩) id := by
    rintro id hid ⟨first, hfirst, hpath⟩
    obtain rfl := List.mem_singleton.mp hid
    obtain rfl := List.mem_singleton.mp hfirst
    rcases hpath.cases_head with heq | ⟨inner, hrefers, -⟩
    · cases heq
    · cases hrefers
  obtain ⟨hinside, hbound, hshows⟩ := render_compositional nestedSelects .null .standard 0
  have hshift (part : Part) (nesting : List SelectId)
      (halone : (nestedSelects.renderAlone .null dialect part).succeeds {})
      (hapart : ∀ id ∈ nesting, ¬ nestedSelects.PartReaches part id) :
      ∃ template : Template, ∃ last,
        (nestedSelects.renderInside .null dialect ⟨[.int 7 0], nesting⟩ part).run {} =
          .ok ⟨template.textFrom .standard 1, .int 7 0 :: template.values, dialect⟩ last := by
    obtain ⟨rendered, after, h⟩ := Writing.succeeds_iff.mp halone
    obtain ⟨written, -, -, rfl⟩ := renderAlone_ok h
    obtain ⟨template, last, -, hvalues, hrun⟩ :=
      hinside part ⟨[.int 7 0], nesting⟩ {} after _ _ h hapart
    rw [hvalues] at hrun
    exact ⟨template, last, hrun⟩
  refine ⟨hshift (.select ⟨0⟩) [⟨1⟩] (by decide +kernel) hapart, ?_, ?_⟩
  · rw [hbound rfl]
    exact hshift (.condition c) [] (by decide +kernel) nofun
  · obtain ⟨rendered, after, h⟩ := Writing.succeeds_iff.mp (show
      (nestedSelects.render .null dialect (.select ⟨1⟩)).succeeds {} by decide +kernel)
    exact ⟨rendered, after, h,
      hshows dialect (.select ⟨1⟩) {} after rendered (by decide +kernel) rfl h⟩

end Store

end SqlComposer
