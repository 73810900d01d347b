import Mathlib.Data.List.Forall2
import SqlComposer.Proofs.Token
import SqlComposer.Proofs.Unfolding

/-!
# Pieces that match

Two layouts match if they are the same but for the values that they bind. They still do once their
subselects are unfolded, and tokens that match make one and the same text.
-/

namespace SqlComposer

/-! ## What matches -/

section Matches

variable (stands : Value → Value → Prop) (bound : Bool)

/-- The same piece, but for the values in it, each of which has one that `stands` for it in the
other. Counts may differ only if they are `bound`. -/
inductive Piece.Matches : Piece → Piece → Prop
  | word (text : String) : Piece.Matches (.word text) (.word text)
  | copied (text : String) : Piece.Matches (.copied text) (.copied text)
  | identifier (name : Name) : Piece.Matches (.identifier name) (.identifier name)
  | reference (name : Name) : Piece.Matches (.reference name) (.reference name)
  | ordering (name : Name) : Piece.Matches (.ordering name) (.ordering name)
  | quoted (name : Name) : Piece.Matches (.quoted name) (.quoted name)
  | value {v v' : Value} : stands v v' → Piece.Matches (.value v) (.value v')
  | count {n n' : Nat} : (if bound then stands (.int n 0) (.int n' 0) else n = n') →
      Piece.Matches (.count n) (.count n')
  | display (v : Value) : Piece.Matches (.display v) (.display v)
  | subselect (id : SelectId) : Piece.Matches (.subselect id) (.subselect id)
  | streamed (number : Nat) {items items' : List (List Piece)} :
      List.Forall₂ (List.Forall₂ Piece.Matches) items items' →
      Piece.Matches (.streamed number items) (.streamed number items')
  | unnamed (column : Value) {behind behind' : List Piece} :
      List.Forall₂ Piece.Matches behind behind' →
      Piece.Matches (.unnamed column behind) (.unnamed column behind')
  | lateIdentifier (name : Name) {behind behind' : List Piece} :
      List.Forall₂ Piece.Matches behind behind' →
      Piece.Matches (.lateIdentifier name behind) (.lateIdentifier name behind')
  | refused (cause : ClauseError) : Piece.Matches (.refused cause) (.refused cause)

/-- The same text, or two values of which the second stands for the first. -/
inductive Token.Matches : Token → Token → Prop
  | text (s : String) : Token.Matches (.text s) (.text s)
  | bound {v v' : Value} : stands v v' → Token.Matches (.bound v) (.bound v')

end Matches

variable {stands : Value → Value → Prop} {bound : Bool}

mutual

theorem Piece.Matches.refl (h : ∀ v, stands v v) : (piece : Piece) →
    piece.Matches stands bound piece
  | .word text => .word text
  | .copied text => .copied text
  | .identifier name => .identifier name
  | .reference name => .reference name
  | .ordering name => .ordering name
  | .quoted name => .quoted name
  | .value v => .value (h v)
  | .count n => .count (by split; exacts [h _, rfl])
  | .display v => .display v
  | .subselect id => .subselect id
  | .streamed number items => .streamed number (items_refl h items)
  | .unnamed column behind => .unnamed column (pieces_refl h behind)
  | .lateIdentifier name behind => .lateIdentifier name (pieces_refl h behind)
  | .refused cause => .refused cause

theorem pieces_refl (h : ∀ v, stands v v) :
    (pieces : List Piece) → List.Forall₂ (Piece.Matches stands bound) pieces pieces
  | [] => .nil
  | piece :: pieces => .cons (Piece.Matches.refl h piece) (pieces_refl h pieces)

theorem items_refl (h : ∀ v, stands v v) : (items : List (List Piece)) →
    List.Forall₂ (List.Forall₂ (Piece.Matches stands bound)) items items
  | [] => .nil
  | item :: items => .cons (pieces_refl h item) (items_refl h items)

end

theorem forall₂_intercalate {α β : Type} {R : α → β → Prop} {sep : List α} {sep' : List β}
    (hsep : List.Forall₂ R sep sep') : {xs : List (List α)} → {ys : List (List β)} →
      List.Forall₂ (List.Forall₂ R) xs ys →
        List.Forall₂ R (sep.intercalate xs) (sep'.intercalate ys)
  | _, _, .nil => .nil
  | _, _, .cons hx .nil => by
      rw [List.intercalate_singleton, List.intercalate_singleton]; exact hx
  | _, _, .cons hx (.cons hy hs) => by
      rw [List.intercalate_cons_cons, List.intercalate_cons_cons]
      exact List.rel_append (List.rel_append hx hsep) (forall₂_intercalate hsep (.cons hy hs))

/-! ## Unfolding -/

theorem endsRefused_eq : {pieces pieces' : List Piece} →
    List.Forall₂ (Piece.Matches stands bound) pieces pieces' →
      endsRefused pieces = endsRefused pieces'
  | _, _, .nil => rfl
  | _, _, .cons h .nil => by cases h <;> rfl
  | _, _, .cons _ (.cons h hs) => by
      simp only [endsRefused, List.getLast?_cons_cons]
      exact endsRefused_eq (.cons h hs)

section Unfolding

variable {sub sub' : SelectId → List Piece}

mutual

theorem Piece.Matches.unfolded
    (hsub : ∀ id, List.Forall₂ (Piece.Matches stands bound) (sub id) (sub' id)) :
    {piece piece' : Piece} → piece.Matches stands bound piece' →
    List.Forall₂ (Piece.Matches stands bound) (piece.unfolded sub) (piece'.unfolded sub')
  | _, _, .word text => .cons (.word text) .nil
  | _, _, .copied text => .cons (.copied text) .nil
  | _, _, .identifier name => .cons (.identifier name) .nil
  | _, _, .reference name => .cons (.reference name) .nil
  | _, _, .ordering name => .cons (.ordering name) .nil
  | _, _, .quoted name => .cons (.quoted name) .nil
  | _, _, .value h => .cons (.value h) .nil
  | _, _, .count h => .cons (.count h) .nil
  | _, _, .display v => .cons (.display v) .nil
  | _, _, .subselect id => hsub id
  | _, _, .streamed number h => .cons (.streamed number (unfoldedItems_matches hsub h)) .nil
  | _, _, .unnamed column h => .cons (.unnamed column (unfolded_matches hsub h)) .nil
  | _, _, .lateIdentifier name h => .cons (.lateIdentifier name (unfolded_matches hsub h)) .nil
  | _, _, .refused cause => .cons (.refused cause) .nil

theorem unfolded_matches
    (hsub : ∀ id, List.Forall₂ (Piece.Matches stands bound) (sub id) (sub' id)) :
    {pieces pieces' : List Piece} →
    List.Forall₂ (Piece.Matches stands bound) pieces pieces' →
      List.Forall₂ (Piece.Matches stands bound) (unfolded sub pieces) (unfolded sub' pieces')
  | _, _, .nil => .nil
  | _, _, .cons h hs => by
      have hfirst := h.unfolded hsub
      simp only [SqlComposer.unfolded, endsRefused_eq hfirst]
      split
      · exact hfirst
      · exact List.rel_append hfirst (unfolded_matches hsub hs)

theorem unfoldedItems_matches
    (hsub : ∀ id, List.Forall₂ (Piece.Matches stands bound) (sub id) (sub' id)) :
    {items items' : List (List Piece)} →
    List.Forall₂ (List.Forall₂ (Piece.Matches stands bound)) items items' →
      List.Forall₂ (List.Forall₂ (Piece.Matches stands bound))
        (unfoldedItems sub items) (unfoldedItems sub' items')
  | _, _, .nil => .nil
  | _, _, .cons h hs => .cons (unfolded_matches hsub h) (unfoldedItems_matches hsub hs)

end

end Unfolding

namespace Store

variable {st st' : Store} (hlength : st.selects.length = st'.selects.length)
  (hlayout : ∀ id, List.Forall₂ (Piece.Matches stands bound) (st.select id).layout
    (st'.select id).layout)
include hlength hlayout

/-- Stores with as many SELECTs, the layouts of which match, unfold each of them alike. -/
theorem selectPieces_matches (nesting : List SelectId) (id : SelectId) :
    List.Forall₂ (Piece.Matches stands bound) (st.selectPieces nesting id)
      (st'.selectPieces nesting id) := by
  rw [selectPieces, selectPieces, ← hlength]
  split
  · exact .cons (.refused _) .nil
  · split
    · exact unfolded_matches (fun inner => selectPieces_matches (id :: nesting) inner) (hlayout id)
    · exact .cons (.word _) (.cons (.word _) (.cons (.word _) .nil))
termination_by st.remaining nesting
decreasing_by exact remaining_lt ‹_› ‹_›

theorem pieces_matches {pieces pieces' : List Piece}
    (h : List.Forall₂ (Piece.Matches stands bound) pieces pieces') :
    List.Forall₂ (Piece.Matches stands bound) (st.pieces pieces) (st'.pieces pieces') :=
  unfolded_matches (selectPieces_matches hlength hlayout []) h

end Store

/-! ## Tokens -/

theorem Token.textFrom_eq (d : Dialect) : {tokens tokens' : List Token} → (count : Nat) →
    List.Forall₂ (Token.Matches stands) tokens tokens' →
      Token.textFrom d count tokens = Token.textFrom d count tokens'
  | _, _, _, .nil => rfl
  | _, _, count, .cons (.text _) hs => by
      simp only [Token.textFrom, Token.textFrom_eq d count hs]
  | _, _, count, .cons (.bound _) hs => by
      simp only [Token.textFrom, Token.textFrom_eq d (count + 1) hs]

theorem Token.values_matches {tokens tokens' : List Token}
    (h : List.Forall₂ (Token.Matches stands) tokens tokens') :
    List.Forall₂ stands (Token.values tokens) (Token.values tokens') := by
  refine List.rel_filterMap ?_ h
  intro token token' ht
  cases ht with
  | text s => exact .none
  | bound hv => exact .some hv

theorem Token.eq_of_matches {tokens tokens' : List Token}
    (h : List.Forall₂ (Token.Matches Eq) tokens tokens') : tokens = tokens' := by
  refine List.forall₂_eq_eq_eq ▸ h.imp ?_
  rintro _ _ (_ | ⟨rfl⟩) <;> rfl

end SqlComposer
