import SqlComposer.Proofs.LaidOut

/-!
# Rendering

What rendering comes to. The text and the values of a statement are those of its tokens, numbered
from left to right, and so are those of a part behind values that are bound already.
-/

namespace SqlComposer

theorem laidOut_rendered (w : Writer) (sub : SelectId → List Piece) (pieces : List Piece)
    (bound : List Value) :
    (laidOut w sub pieces).rendered w.dialect bound = do
      return .ofTokens w.dialect bound (← tokens w (unfolded sub pieces)) := by
  rw [Binding.rendered, laidOut, Binding.numbered_run]
  simp only [bind_assoc, pure_bind]
  rfl

namespace Store

/-- A statement is written as its layout, and adds one line to the log. -/
theorem renderWith_eq (st : Store) (nested : Nested) (around : Surroundings)
    (inUse asked : Value) (r : StatementRef) :
    st.renderWith nested around inUse asked r = (do
      let rendered := Rendered.ofTokens (st.activeDialect inUse asked r) []
        (← tokens (st.writer nested around (st.activeDialect inUse asked r))
          (st.pieces (st.layout r)))
      Writing.addLine renderLogger (renderMessage r rendered)
      return rendered) := by
  have hrendered := laidOut_rendered (st.writer nested around (st.activeDialect inUse asked r))
    (st.selectPieces []) (st.layout r) []
  rw [renderWith, writeStatement_eq]
  refine (congrArg (· >>= _) hrendered).trans ?_
  simp only [bind_assoc, pure_bind]
  rfl

theorem renderWith_run (st : Store) (nested : Nested) (around : Surroundings)
    (inUse asked : Value) (r : StatementRef) (before : Progress) :
    (st.renderWith nested around inUse asked r).run before =
      match (tokens (st.writer nested around (st.activeDialect inUse asked r))
        (st.pieces (st.layout r))).run before with
      | .ok written after =>
        let rendered := Rendered.ofTokens (st.activeDialect inUse asked r) [] written
        .ok rendered (after.addLine { logger := renderLogger, message := renderMessage r rendered })
      | .error fault after => .error fault after := by
  rw [renderWith_eq, Writing.bind_run]
  cases (tokens (st.writer nested around (st.activeDialect inUse asked r))
    (st.pieces (st.layout r))).run before <;> rfl

end Store

/-- The progress once the log has its line about a statement that has been written. -/
def Progress.addRendered (p : Progress) (r : StatementRef) (rendered : Rendered) : Progress :=
  p.addLine { logger := renderLogger, message := Store.renderMessage r rendered }

section Render

variable {st : Store} {inUse : Value} {d : Dialect} {serial : Serial} {r : StatementRef}
  {before after : Progress}

theorem Store.render_ok {written : List Token}
    (h : (tokens (st.writer (st.text inUse) {} (.dialect d serial)) (st.pieces (st.layout r))).run
      before = .ok written after) :
    (st.render inUse (.dialect d serial) r).run before =
      .ok (.ofTokens (.dialect d serial) [] written)
        (after.addRendered r (.ofTokens (.dialect d serial) [] written)) := by
  have hactive : st.activeDialect inUse (.dialect d serial) r = .dialect d serial := rfl
  rw [render, renderWith_run, hactive, h]
  rfl

theorem Store.render_error {fault : Fault}
    (h : (tokens (st.writer (st.text inUse) {} (.dialect d serial)) (st.pieces (st.layout r))).run
      before = .error fault after) :
    (st.render inUse (.dialect d serial) r).run before = .error fault after := by
  have hactive : st.activeDialect inUse (.dialect d serial) r = .dialect d serial := rfl
  rw [render, renderWith_run, hactive, h]

/-- A statement that is written has the text of tokens that its pieces come to. -/
theorem Store.tokens_of_render {rendered : Rendered}
    (h : (st.render inUse (.dialect d serial) r).run before = .ok rendered after) :
    ∃ written middle,
      (tokens (st.writer (st.text inUse) {} (.dialect d serial)) (st.pieces (st.layout r))).run
        before = .ok written middle ∧ rendered = .ofTokens (.dialect d serial) [] written := by
  cases hwritten : (tokens (st.writer (st.text inUse) {} (.dialect d serial))
    (st.pieces (st.layout r))).run before with
  | ok written middle =>
      cases (render_ok hwritten).symm.trans h
      exact ⟨written, middle, rfl, rfl⟩
  | error fault middle => cases (render_error hwritten).symm.trans h

end Render

/-! ## Parts -/

def Part.layout : Part → List Piece
  | .select id => [.subselect id]
  | .condition c => c.layout

namespace Store

/-- Pieces whose placeholders are numbered in the end, behind the values of a context. -/
def renderPieces (st : Store) (inUse dialect : Value) (context : Context) (pieces : List Piece) :
    Writing Rendered := do
  return .ofTokens dialect context.bound (← tokens (st.writer (st.text inUse) {} dialect)
    (unfolded (st.selectPieces context.nesting) pieces))

variable (st : Store)

/-- What is written as its layout is rendered in any context as its layout is: the values that are
bound already come first, and the placeholders count on from them. -/
theorem renderIn_eq {write : Writer → (SelectId → Binding String) → Binding String}
    {pieces : List Piece}
    (h : ∀ (w : Writer) (sub : SelectId → List Piece),
      write w (laidOutSelect w sub) = laidOut w sub pieces)
    (inUse dialect : Value) (context : Context) :
    st.renderIn inUse dialect context write = st.renderPieces inUse dialect context pieces := by
  rw [renderIn, writeSelects_eq, h]
  exact laidOut_rendered (st.writer (st.text inUse) {} dialect) ..

theorem renderInside_eq (inUse dialect : Value) (context : Context) (part : Part) :
    st.renderInside inUse dialect context part =
      st.renderPieces inUse dialect context part.layout := by
  refine st.renderIn_eq (fun w sub => ?_) inUse dialect context
  cases part with
  | select id => rfl
  | condition c => exact c.write_eq

theorem renderCondition_nil (inUse dialect : Value) (serial : Serial) (c : Condition) :
    st.renderCondition inUse dialect (.list [] serial) (.condition c) =
      st.renderInside inUse dialect {} (.condition c) :=
  rfl

theorem bindMembers_run {w : Writer} {d : Dialect} (h : w.binding = pure d) :
    (vs bound : List Value) → ∃ texts, (vs.mapM w.bind).run bound = pure (texts, bound ++ vs)
  | [], bound => ⟨[], by rw [List.mapM_nil, StateT.run_pure, List.append_nil]⟩
  | v :: vs, bound => by
      obtain ⟨texts, hrest⟩ := bindMembers_run h vs (bound ++ [v])
      rw [List.append_assoc, List.singleton_append] at hrest
      refine ⟨d.placeholder (bound.length + 1) :: texts, ?_⟩
      simp only [List.mapM_cons, StateT.run_bind, bind_run, h, hrest, pure_bind, StateT.run_pure]

theorem renderCondition_eq_renderInside (inUse : Value) {d : Dialect} (hstyle : d.style?.isSome)
    (serial serial' : Serial) (bound : List Value) (c : Condition) :
    st.renderCondition inUse (.dialect d serial) (.list bound serial') (.condition c) =
      st.renderInside inUse (.dialect d serial) { bound } (.condition c) := by
  have hbinding : (st.writer (st.text inUse) {} (.dialect d serial)).binding = pure d :=
    if_pos hstyle
  obtain ⟨texts, hbound⟩ := bindMembers_run hbinding bound []
  rw [List.nil_append] at hbound
  simp only [renderCondition, renderInside, renderIn, Binding.rendered, Writer.bindAll,
    Value.members?, Option.getD_some, StateT.run_bind, hbound, pure_bind, bind_assoc]
  rfl

end Store

end SqlComposer
