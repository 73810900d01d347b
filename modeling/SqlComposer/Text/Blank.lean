import SqlComposer.Text.Block
import SqlComposer.Text.Split

/-!
# Blank characters

Spaces, line ends, the information separators, and the space characters beyond ASCII. Trimming a
text, splitting it into words and asking whether it is blank all go by this one class.
-/

namespace SqlComposer.Text

/-- The blocks of blank characters, in ascending order. -/
def blankBlocks : List Block :=
  [(0x9, 0xd), (0x1c, 0x20), (0x85, 0x85), (0xa0, 0xa0), (0x1680, 0x1680), (0x2000, 0x200a),
  (0x2028, 0x2029), (0x202f, 0x202f), (0x205f, 0x205f), (0x3000, 0x3000)]

def isBlank (c : Char) : Bool :=
  inBlocks blankBlocks c.toNat

/-- Whether a text has no character that is not blank. -/
def allBlank (s : String) : Bool :=
  s.toList.all isBlank

/-- The characters without those of a class at both ends. -/
def trimBy (isDropped : Char → Bool) (cs : List Char) : List Char :=
  ((cs.dropWhile isDropped).reverse.dropWhile isDropped).reverse

def trimChars (cs : List Char) : List Char :=
  trimBy isBlank cs

def trim (s : String) : String :=
  String.ofList (trimChars s.toList)

/-- The maximal runs of characters that are not blank. -/
def words (cs : List Char) : List (List Char) :=
  (splitAll isBlank cs).filter (!·.isEmpty)

end SqlComposer.Text
