import SqlComposer.Proofs.Layout

/-!
# Unfolding

The pieces of a statement with the pieces of every subselect in its place. A SELECT that is met
again inside itself is refused there, so unfolding comes to an end, however statements refer to each
other. What stands behind a refusal is left out, for it is never written.
-/

namespace SqlComposer

/-- Whether pieces end with a refusal. -/
def endsRefused (pieces : List Piece) : Bool :=
  match pieces.getLast? with
  | some (.refused _) => true
  | _ => false

mutual

/-- A piece with the pieces that `sub` gives in the place of a subselect. -/
def Piece.unfolded (sub : SelectId → List Piece) : Piece → List Piece
  | .subselect id => sub id
  | .streamed number items => [.streamed number (unfoldedItems sub items)]
  | .unnamed column behind => [.unnamed column (unfolded sub behind)]
  | .lateIdentifier name behind => [.lateIdentifier name (unfolded sub behind)]
  | piece => [piece]

/-- Several pieces, up to the first that is refused. -/
def unfolded (sub : SelectId → List Piece) : List Piece → List Piece
  | [] => []
  | piece :: pieces =>
    let first := piece.unfolded sub
    if endsRefused first then first else first ++ unfolded sub pieces

def unfoldedItems (sub : SelectId → List Piece) : List (List Piece) → List (List Piece)
  | [] => []
  | item :: items => unfolded sub item :: unfoldedItems sub items

end

namespace Store

/-- A SELECT inside those of `nesting`, which it may not be one of. -/
def selectPieces (st : Store) (nesting : List SelectId) (id : SelectId) : List Piece :=
  if _ : id ∈ nesting then [.refused .nestedInItself]
  else if _ : id.index < st.selects.length then
    unfolded (fun inner => st.selectPieces (id :: nesting) inner) (st.select id).layout
  else Select.layout {}
termination_by st.remaining nesting
decreasing_by exact remaining_lt ‹_› ‹_›

/-- Pieces with those of all subselects in their places. -/
def pieces (st : Store) (laidOut : List Piece) : List Piece :=
  unfolded (st.selectPieces []) laidOut

end Store

end SqlComposer
