import SqlComposer.Proofs.Bindings
import SqlComposer.Proofs.Rendering

/-!
# The values of a written statement

A statement that is written binds the values that a traversal of it collects, in the same order.
The members that a column is looked up in are a tuple, as they are declared: a stream in their place
can be gone through only once, so what it gives depends on what has been written before.
-/

namespace SqlComposer

/-! ## Pieces that can be written -/

mutual

/-- Whether a piece passes a test, or all those do that stand behind it and are written first. -/
def Piece.passes (test : Piece → Bool) : Piece → Bool
  | .unnamed _ behind => allPass test behind
  | .lateIdentifier _ behind => allPass test behind
  | piece => test piece

def allPass (test : Piece → Bool) : List Piece → Bool
  | [] => true
  | piece :: pieces => piece.passes test && allPass test pieces

end

/-- Whether a piece takes no items from a stream. -/
def Piece.isStreamless : Piece → Bool
  | .streamed _ _ => false
  | _ => true

/-- Whether a piece neither is refused nor takes items from a stream. -/
def Piece.isSettled : Piece → Bool
  | .streamed _ _ => false
  | .refused _ => false
  | _ => true

theorem allPass_append (test : Piece → Bool) (front back : List Piece) :
    allPass test (front ++ back) = (allPass test front && allPass test back) := by
  induction front with
  | nil => rfl
  | cons piece pieces ih => simp only [List.cons_append, allPass, ih, Bool.and_assoc]

theorem not_endsRefused : (pieces : List Piece) → allPass Piece.isSettled pieces →
    endsRefused pieces = false
  | [], _ => rfl
  | [piece], h => by
      cases piece with
      | refused cause => cases h
      | _ => rfl
  | piece :: next :: pieces, h => by
      rw [allPass, Bool.and_eq_true] at h
      simpa only [endsRefused, List.getLast?_cons_cons] using not_endsRefused (next :: pieces) h.2

/-! ## Unfolding -/

section Unfolding

variable {counts : Bool} {sub : SelectId → List Piece} {sub' : SelectId → List Value}

mutual

theorem Piece.bindings_unfolded
    (hsub : ∀ id, allPass Piece.isSettled (sub id) →
      bindingsIn counts (fun _ => []) (sub id) = sub' id)
    (piece : Piece) (h : allPass Piece.isSettled (piece.unfolded sub)) :
    bindingsIn counts (fun _ => []) (piece.unfolded sub) = piece.bindings counts sub' := by
  cases piece with
  | subselect id => exact hsub id h
  | streamed number items => cases h
  | unnamed column behind =>
      have hbehind := (Bool.and_true _).symm.trans h
      exact (List.append_nil _).trans (bindingsIn_unfolded hsub behind hbehind)
  | lateIdentifier name behind =>
      have hbehind := (Bool.and_true _).symm.trans h
      exact (List.append_nil _).trans (bindingsIn_unfolded hsub behind hbehind)
  | _ => exact List.append_nil _

theorem bindingsIn_unfolded
    (hsub : ∀ id, allPass Piece.isSettled (sub id) →
      bindingsIn counts (fun _ => []) (sub id) = sub' id) :
    (pieces : List Piece) → allPass Piece.isSettled (unfolded sub pieces) →
      bindingsIn counts (fun _ => []) (unfolded sub pieces) = bindingsIn counts sub' pieces
  | [], _ => rfl
  | piece :: pieces, h => by
      rw [unfolded] at h ⊢
      by_cases hend : endsRefused (piece.unfolded sub)
      · rw [if_pos hend] at h
        cases (not_endsRefused _ h).symm.trans hend
      · rw [if_neg hend, allPass_append, Bool.and_eq_true] at h
        rw [if_neg hend, bindingsIn_append, piece.bindings_unfolded hsub h.1,
          bindingsIn_unfolded hsub pieces h.2, bindingsIn]

end

end Unfolding

namespace Store

variable {counts : Bool}

theorem bindings_selectPieces (st : Store) (nesting : List SelectId) (id : SelectId)
    (h : allPass Piece.isSettled (st.selectPieces nesting id)) :
    bindingsIn counts (fun _ => []) (st.selectPieces nesting id) =
      st.selectBindings counts nesting id := by
  rw [selectPieces] at h ⊢
  rw [selectBindings]
  by_cases hnested : id ∈ nesting
  · rw [dif_pos hnested, dif_pos hnested]; rfl
  · rw [dif_neg hnested] at h
    rw [dif_neg hnested, dif_neg hnested]
    by_cases hknown : id.index < st.selects.length
    · rw [dif_pos hknown] at h
      rw [dif_pos hknown, dif_pos hknown, ← Select.bindingsIn_layout]
      exact bindingsIn_unfolded (fun inner => st.bindings_selectPieces (id :: nesting) inner) _ h
    · rw [dif_neg hknown, dif_neg hknown]; rfl
termination_by st.remaining nesting
decreasing_by exact remaining_lt ‹_› ‹_›

/-- A statement that is unfolded without a refusal binds what a traversal of it collects. -/
theorem bindings_pieces (st : Store) (r : StatementRef)
    (h : allPass Piece.isSettled (st.pieces (st.layout r))) :
    bindingsIn counts (fun _ => []) (st.pieces (st.layout r)) = st.bindings counts r := by
  refine (bindingsIn_unfolded (st.bindings_selectPieces []) _ h).trans ?_
  cases r with
  | bare id => rfl
  | select id => exact List.append_nil _
  | insert id =>
      cases htable : (st.insert id).table with
      | none => rw [layout, Insert.layout, htable] at h; cases h
      | some table => exact Insert.bindingsIn_layout htable
  | update id =>
      cases htable : (st.update id).table with
      | none => rw [layout, Update.layout, htable] at h; cases h
      | some table =>
          cases hempty : (st.update id).assignments.isEmpty with
          | true =>
              rw [layout, Update.layout, htable] at h
              simp only [hempty, if_true] at h
              cases h
          | false => exact Update.bindingsIn_layout htable hempty
  | delete id =>
      cases htable : (st.delete id).table with
      | none => rw [layout, Delete.layout, htable] at h; cases h
      | some table => exact Delete.bindingsIn_layout htable

end Store

/-! ## Tokens -/

theorem Writer.values_token {w : Writer} {v : Value} {before after : Progress} {token : Token}
    (h : (w.token v).run before = .ok token after) : Token.values [token] = [v] := by
  obtain ⟨d, middle, -, h⟩ := Writing.bind_ok h
  cases h
  rfl

theorem Writer.dialectFor_ok {w : Writer} {part : String} {before after : Progress} {d : Dialect}
    (h : (w.dialectFor part).run before = .ok d after) : d = w.dialect.asDialect := by
  unfold Writer.dialectFor at h
  split at h
  · rename_i heq
    cases h
    rw [heq]
    rfl
  · cases h

theorem Token.values_commaSeparated : (parts : List (List Token)) →
    Token.values (commaSeparated parts) = parts.flatMap Token.values
  | [] => rfl
  | [part] => by
      rw [commaSeparated, List.intercalate_singleton, List.flatMap_singleton]
  | part :: next :: parts => by
      have hrest := Token.values_commaSeparated (next :: parts)
      rw [commaSeparated] at hrest
      rw [commaSeparated, List.intercalate_cons_cons, values_append, values_append, hrest,
        List.flatMap_cons, List.append_assoc]
      rfl

section Tokens

variable {w : Writer} {counts : Bool}

mutual

/-- What is written without a fault, and without a stream, is settled, and its tokens bind what the
pieces bind. -/
theorem Piece.values_tokens (hcounts : w.dialect.asDialect.countsAreBound = counts) :
    (piece : Piece) → {before after : Progress} → {written : List Token} →
      piece.passes Piece.isStreamless → (piece.tokens w).run before = .ok written after →
        piece.passes Piece.isSettled ∧ Token.values written = piece.bindings counts fun _ => []
  | .word text, _, _, _, _, h => by cases h; exact ⟨rfl, rfl⟩
  | .copied text, _, _, _, _, h => by cases h; exact ⟨rfl, rfl⟩
  | .identifier name, _, _, _, _, h => by
      obtain ⟨text, middle, -, h⟩ := Writing.bind_ok h
      cases h
      exact ⟨rfl, rfl⟩
  | .reference name, _, _, _, _, h => by
      obtain ⟨text, middle, -, h⟩ := Writing.bind_ok h
      cases h
      exact ⟨rfl, rfl⟩
  | .ordering name, _, _, _, _, h => by
      obtain ⟨text, middle, -, h⟩ := Writing.bind_ok h
      cases h
      exact ⟨rfl, rfl⟩
  | .quoted name, _, _, _, _, h => by
      obtain ⟨text, middle, -, h⟩ := Writing.bind_ok h
      cases h
      exact ⟨rfl, rfl⟩
  | .value v, _, _, _, _, h => by
      obtain ⟨token, middle, htoken, h⟩ := Writing.bind_ok h
      cases h
      exact ⟨rfl, Writer.values_token htoken⟩
  | .count n, _, _, _, _, h => by
      obtain ⟨d, middle, hd, h⟩ := Writing.bind_ok h
      rw [Writer.dialectFor_ok hd, hcounts] at h
      cases counts with
      | true =>
          obtain ⟨token, last, htoken, h⟩ := Writing.bind_ok h
          cases h
          exact ⟨rfl, Writer.values_token htoken⟩
      | false => cases h; exact ⟨rfl, rfl⟩
  | .display v, _, _, _, _, h => by
      obtain ⟨text, middle, -, h⟩ := Writing.bind_ok h
      cases h
      exact ⟨rfl, rfl⟩
  | .subselect id, _, _, _, _, h => by cases h; exact ⟨rfl, rfl⟩
  | .streamed number items, _, _, _, hstreams, _ => by cases hstreams
  | .unnamed column behind, _, _, _, hstreams, h => by
      obtain ⟨d, middle, -, h⟩ := Writing.bind_ok h
      split at h
      · obtain ⟨_, _, hthrow, -⟩ := Writing.bind_ok h
        cases hthrow
      · obtain ⟨rest, last, hrest, h⟩ := Writing.bind_ok h
        obtain ⟨text, latest, -, h⟩ := Writing.bind_ok h
        cases h
        obtain ⟨hsettled, hvalues⟩ := values_tokens hcounts behind hstreams hrest
        exact ⟨hsettled, hvalues⟩
  | .lateIdentifier name behind, _, _, _, hstreams, h => by
      obtain ⟨rest, middle, hrest, h⟩ := Writing.bind_ok h
      obtain ⟨text, last, -, h⟩ := Writing.bind_ok h
      cases h
      obtain ⟨hsettled, hvalues⟩ := values_tokens hcounts behind hstreams hrest
      exact ⟨hsettled, hvalues⟩
  | .refused cause, before, _, _, _, h => by
      obtain ⟨fault, last, hfault⟩ := Writing.refuse_run w.shown cause before
      cases h.symm.trans hfault

theorem values_tokens (hcounts : w.dialect.asDialect.countsAreBound = counts) :
    (pieces : List Piece) → {before after : Progress} → {written : List Token} →
      allPass Piece.isStreamless pieces → (tokens w pieces).run before = .ok written after →
        allPass Piece.isSettled pieces ∧
          Token.values written = bindingsIn counts (fun _ => []) pieces
  | [], _, _, _, _, h => by cases h; exact ⟨rfl, rfl⟩
  | piece :: pieces, _, _, _, hstreams, h => by
      rw [allPass, Bool.and_eq_true] at hstreams
      obtain ⟨first, middle, hfirst, h⟩ := Writing.bind_ok h
      obtain ⟨rest, last, hrest, h⟩ := Writing.bind_ok h
      cases h
      obtain ⟨hsettled, hvalues⟩ := piece.values_tokens hcounts hstreams.1 hfirst
      obtain ⟨hallSettled, hallValues⟩ := values_tokens hcounts pieces hstreams.2 hrest
      rw [allPass, hsettled, hallSettled, Token.values_append, hvalues, hallValues]
      exact ⟨rfl, rfl⟩

end

end Tokens

theorem Writer.values_value {w : Writer} {v : Value} {before after : Progress}
    {written : List Token} (h : (SqlComposer.tokens w [.value v]).run before = .ok written after) :
    Token.values written = [v] := by
  obtain ⟨first, middle, hfirst, h⟩ := Writing.bind_ok h
  obtain ⟨token, last, htoken, hfirst⟩ := Writing.bind_ok hfirst
  cases hfirst
  cases h
  exact Writer.values_token htoken

/-! ## Statements -/

namespace Store

/-- Whether no column on the way is looked up in a stream. -/
def isStreamless (st : Store) (r : StatementRef) : Bool :=
  allPass Piece.isStreamless (st.pieces (st.layout r))

/-- The values of a statement that has been written are those that a traversal of it collects from
left to right: none is lost, repeated or moved. That no column is looked up in a stream holds of
every sound statement (`isStreamless_of_isSound`). -/
theorem render_values {st : Store} {inUse asked : Value} {r : StatementRef}
    {before after : Progress} {rendered : Rendered} (hstreams : st.isStreamless r)
    (h : (st.render inUse asked r).run before = .ok rendered after) :
    rendered.values =
      st.bindings (st.activeDialect inUse asked r).asDialect.countsAreBound r := by
  rw [render, renderWith_run] at h
  split at h
  · rename_i written middle hwritten
    obtain ⟨hsettled, hvalues⟩ := values_tokens rfl _ hstreams hwritten
    cases h
    exact hvalues.trans (st.bindings_pieces r hsettled)
  · cases h

/-- A SELECT that is a column, the source and a bound value of another one, and in a raw fragment in
the order of that one. -/
def nestedSelects : Store where
  selects :=
    [{ columns := [.named (.plain "id")]
       source := some (.table (.plain "t"))
       rows := some (.comparison (.ofText "=") (.ofText "a") (.int 1 0) 0)
       limit := some 2 },
     { columns := [.raw ⟨.plain "f(?)", .tuple [.int 3 0] 0, 0⟩, .subselect ⟨0⟩]
       source := some (.subselect ⟨0⟩)
       sourceAlias := some (.plain "s")
       rows := some (.between (.ofText "b") (.statement (.select ⟨0⟩)) (.int 4 0) 0)
       order :=
         [.raw ⟨.plain "g(?, ?)",
           .tuple [.condition (.raw ⟨.plain "h(?)", .tuple [.int 5 0] 0, 0⟩),
             .statement (.select ⟨0⟩)] 0, 0⟩]
       offset := some 6 }]

theorem render_values_nested :
    let dialect := Value.dialect { Dialect.standard with bindsCounts := .bool true } 0
    nestedSelects.isStreamless (.select ⟨1⟩) ∧ ∃ rendered after,
      (nestedSelects.render .null dialect (.select ⟨1⟩)).run {} = .ok rendered after ∧
        rendered.values = [.int 3 0, .int 1 0, .int 2 0, .int 1 0, .int 2 0, .int 1 0, .int 2 0,
          .int 4 0, .int 5 0, .int 1 0, .int 2 0, .int 6 0] := by
  intro dialect
  have hstreams : nestedSelects.isStreamless (.select ⟨1⟩) := by decide +kernel
  have hok : (match (nestedSelects.render .null dialect (.select ⟨1⟩)).run {} with
      | .ok _ _ => true
      | .error _ _ => false) = true := by
    decide +kernel
  refine ⟨hstreams, ?_⟩
  cases h : (nestedSelects.render .null dialect (.select ⟨1⟩)).run {} with
  | ok rendered after => exact ⟨rendered, after, rfl, (render_values hstreams h).trans (by cbv)⟩
  | error fault after => rw [h] at hok; cases hok

end Store

end SqlComposer
