/-!
# Blocks of code points

A class of characters is given by a list of blocks. Membership is a scan of the list.
-/

namespace SqlComposer.Text

/-- Consecutive code points, both ends included. -/
abbrev Block := Nat × Nat

def inBlocks (blocks : List Block) (code : Nat) : Bool :=
  blocks.any fun block => block.1 ≤ code && code ≤ block.2

end SqlComposer.Text
