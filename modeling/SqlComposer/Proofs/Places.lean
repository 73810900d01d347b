import SqlComposer.Proofs.Alike
import SqlComposer.Proofs.Embedding

/-!
# Pieces in their places

Pieces that are written as the same text with the same values may stand for each other, whatever is
around them: what that is written as does not change either.
-/

namespace SqlComposer

/-! ## Pieces that are written the same -/

/-- The same text with the same values, wherever it starts. -/
structure Token.SameText (written written' : List Token) : Prop where
  values : Token.values written = Token.values written'
  text : ∀ d count, Token.textFrom d count written = Token.textFrom d count written'

namespace Token.SameText

variable {first first' second second' third : List Token}

theorem refl (written : List Token) : SameText written written :=
  ⟨rfl, fun _ _ => rfl⟩

theorem symm (h : SameText first second) : SameText second first :=
  ⟨h.values.symm, fun d count => (h.text d count).symm⟩

theorem trans (h : SameText first second) (h' : SameText second third) : SameText first third :=
  ⟨h.values.trans h'.values, fun d count => (h.text d count).trans (h'.text d count)⟩

theorem append (h : SameText first first') (h' : SameText second second') :
    SameText (first ++ second) (first' ++ second') where
  values := by rw [values_append, values_append, h.values, h'.values]
  text d count := by
    rw [textFrom_append, textFrom_append, h.text, h.values, h'.text]

theorem commaSeparated : {parts parts' : List (List Token)} →
    List.Forall₂ SameText parts parts' →
      SameText (SqlComposer.commaSeparated parts) (SqlComposer.commaSeparated parts')
  | _, _, .nil => .refl _
  | _, _, .cons h .nil => by
      rw [SqlComposer.commaSeparated, SqlComposer.commaSeparated, List.intercalate_singleton,
        List.intercalate_singleton]
      exact h
  | _, _, .cons h (.cons hnext hs) => by
      rw [SqlComposer.commaSeparated, SqlComposer.commaSeparated, List.intercalate_cons_cons,
        List.intercalate_cons_cons]
      exact (h.append (.refl _)).append (commaSeparated (.cons hnext hs))

end Token.SameText

/-- Whatever SELECTs are replaced with, both are written as the same text with the same values, or
refused with the same fault. -/
def WrittenSame (pieces pieces' : List Piece) : Prop :=
  ∀ (w : Writer) (sub : SelectId → List Piece),
    Writing.Alike Token.SameText (tokens w (unfolded sub pieces)) (tokens w (unfolded sub pieces'))

namespace WrittenSame

variable {first first' second second' third : List Piece}

theorem refl (pieces : List Piece) : WrittenSame pieces pieces :=
  fun _ _ => .self _ .refl

theorem symm (h : WrittenSame first second) : WrittenSame second first :=
  fun w sub => (h w sub).symm Token.SameText.symm

theorem trans (h : WrittenSame first second) (h' : WrittenSame second third) :
    WrittenSame first third :=
  fun w sub => (h w sub).trans Token.SameText.trans (h' w sub)

theorem append (h : WrittenSame first first') (h' : WrittenSame second second') :
    WrittenSame (first ++ second) (first' ++ second') := by
  intro w sub
  rw [tokens_unfolded_append, tokens_unfolded_append]
  refine Writing.Alike.bind (h w sub) fun _ _ hfirst => ?_
  exact Writing.Alike.bind (h' w sub) fun _ _ hsecond => .pure (hfirst.append hsecond)

theorem cons (piece : Piece) (h : WrittenSame first first') :
    WrittenSame (piece :: first) (piece :: first') :=
  append (.refl [piece]) h

theorem copied_empty : WrittenSame [.copied ""] [] :=
  fun _ _ => .pure ⟨rfl, fun _ _ => rfl⟩

theorem copied_append (first second : String) :
    WrittenSame [.copied (first ++ second)] [.copied first, .copied second] := by
  intro w sub
  show Writing.Alike _ (pure [Token.text (first ++ second)])
    (pure [Token.text first, Token.text second])
  refine .pure ⟨rfl, fun d count => ?_⟩
  simp only [Token.textFrom, String.append_assoc]

end WrittenSame

/-! ## Places -/

/-- Where pieces may stand: between other ones, behind what is written after them, and in a
stream. -/
inductive Place where
  | here
  | between (front back : List Piece) (outer : Place)
  | behindUnnamed (column : Value) (outer : Place)
  | behindIdentifier (name : Name) (outer : Place)
  | streamed (number : Nat) (front back : List (List Piece)) (outer : Place)

/-- What stands there around the pieces, with them. -/
def Place.filled : Place → List Piece → List Piece
  | here, pieces => pieces
  | between front back outer, pieces => outer.filled (front ++ pieces ++ back)
  | behindUnnamed column outer, pieces => outer.filled [.unnamed column pieces]
  | behindIdentifier name outer, pieces => outer.filled [.lateIdentifier name pieces]
  | streamed number front back outer, pieces =>
    outer.filled [.streamed number (front ++ pieces :: back)]

namespace WrittenSame

variable {pieces pieces' : List Piece}

theorem of_piece {piece piece' : Piece}
    (h : ∀ (w : Writer) (sub : SelectId → List Piece), Writing.Alike Token.SameText
      (tokens w (piece.unfolded sub)) (tokens w (piece'.unfolded sub))) :
    WrittenSame [piece] [piece'] := by
  intro w sub
  rw [tokens_unfolded_cons, tokens_unfolded_cons]
  refine Writing.Alike.bind (h w sub) fun _ _ hfirst => ?_
  exact .bind_same fun rest => .pure (hfirst.append (.refl rest))

theorem unnamed (h : WrittenSame pieces pieces') (column : Value) :
    WrittenSame [.unnamed column pieces] [.unnamed column pieces'] := by
  refine of_piece fun w sub => ?_
  rw [Piece.unfolded, Piece.unfolded, tokens_singleton, tokens_singleton, Piece.tokens,
    Piece.tokens]
  refine .bind_same fun d => ?_
  split
  · exact .self _ .refl
  · refine Writing.Alike.bind (h w sub) fun _ _ hbehind => ?_
    exact .bind_same fun text => .pure (.append (.refl [.text text]) hbehind)

theorem lateIdentifier (h : WrittenSame pieces pieces') (name : Name) :
    WrittenSame [.lateIdentifier name pieces] [.lateIdentifier name pieces'] := by
  refine of_piece fun w sub => ?_
  rw [Piece.unfolded, Piece.unfolded, tokens_singleton, tokens_singleton, Piece.tokens,
    Piece.tokens]
  refine Writing.Alike.bind (h w sub) fun _ _ hbehind => ?_
  exact .bind_same fun text => .pure (.append (.refl [.text text]) hbehind)

theorem itemTokens (h : WrittenSame pieces pieces') (w : Writer) (sub : SelectId → List Piece)
    (number : Nat) (back : List (List Piece)) : (front : List (List Piece)) → (position : Nat) →
      Writing.Alike (List.Forall₂ Token.SameText)
        (SqlComposer.itemTokens w number position (unfoldedItems sub (front ++ pieces :: back)))
        (SqlComposer.itemTokens w number position (unfoldedItems sub (front ++ pieces' :: back)))
  | [], position => by
      refine .bind_same fun progress => ?_
      have hback (position : Nat) : Writing.Alike (List.Forall₂ Token.SameText)
          (SqlComposer.itemTokens w number position (unfoldedItems sub back))
          (SqlComposer.itemTokens w number position (unfoldedItems sub back)) :=
        .self _ fun parts => List.forall₂_same.mpr fun part _ => .refl part
      split
      · exact hback _
      · refine .bind_same fun _ => ?_
        refine Writing.Alike.bind (h w sub) fun _ _ hfirst => ?_
        exact Writing.Alike.bind (hback _) fun _ _ hrest => .pure (.cons hfirst hrest)
  | item :: front, position => by
      have hrest := itemTokens h w sub number back front (position + 1)
      refine .bind_same fun progress => ?_
      split
      · exact hrest
      · refine .bind_same fun _ => .bind_same fun first => ?_
        exact Writing.Alike.bind hrest fun _ _ hrest => .pure (.cons (.refl first) hrest)

theorem streamed (h : WrittenSame pieces pieces') (number : Nat) (front back : List (List Piece)) :
    WrittenSame [.streamed number (front ++ pieces :: back)]
      [.streamed number (front ++ pieces' :: back)] := by
  refine of_piece fun w sub => ?_
  rw [Piece.unfolded, Piece.unfolded, tokens_singleton, tokens_singleton, Piece.tokens,
    Piece.tokens]
  refine Writing.Alike.bind (itemTokens h w sub number back front 0) fun _ _ hparts => ?_
  exact .pure (.commaSeparated hparts)

/-- What is written the same is written the same in any place. -/
theorem filled (h : WrittenSame pieces pieces') (place : Place) :
    WrittenSame (place.filled pieces) (place.filled pieces') := by
  induction place generalizing pieces pieces' with
  | here => exact h
  | between front back outer ih => exact ih (.append (.append (.refl front) h) (.refl back))
  | behindUnnamed column outer ih => exact ih (h.unnamed column)
  | behindIdentifier name outer ih => exact ih (h.lateIdentifier name)
  | streamed number front back outer ih => exact ih (h.streamed number front back)

end WrittenSame

/-! ## Rendering in a context -/

section RenderPieces

variable (st : Store) (inUse dialect : Value) (context : Context)

theorem Store.renderPieces_append (front back : List Piece) :
    st.renderPieces inUse dialect context (front ++ back) = do
      let first ← st.renderPieces inUse dialect context front
      let rest ← st.renderPieces inUse dialect { context with bound := first.values } back
      return { rest with text := first.text ++ rest.text } := by
  simp only [renderPieces, tokens_unfolded_append, bind_assoc, pure_bind, Rendered.ofTokens,
    Token.textFrom_append, Token.values_append, List.length_append, List.append_assoc]

theorem Store.renderPieces_copied (text : String) (back : List Piece) :
    st.renderPieces inUse dialect context (.copied text :: back) = do
      let rest ← st.renderPieces inUse dialect context back
      return { rest with text := text ++ rest.text } := by
  have hcopied (w : Writer) (sub : SelectId → List Piece) :
      tokens w ((Piece.copied text).unfolded sub) = pure [.text text] := rfl
  simp only [renderPieces, tokens_unfolded_cons, hcopied, bind_assoc, pure_bind]
  rfl

theorem WrittenSame.renderPieces_eq {pieces pieces' : List Piece} (h : WrittenSame pieces pieces') :
    st.renderPieces inUse dialect context pieces =
      st.renderPieces inUse dialect context pieces' := by
  refine Writing.Alike.eq (Writing.Alike.bind (h _ _) fun written written' hsame => .pure ?_)
  rw [Rendered.ofTokens, Rendered.ofTokens, hsame.values, hsame.text]

end RenderPieces

end SqlComposer
