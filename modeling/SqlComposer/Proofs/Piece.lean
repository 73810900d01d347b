import SqlComposer.Error

/-!
# Pieces

What a statement consists of is a list of pieces that is the same for every dialect: words of the
language, names, copied text, values to bind, and references to subselects. What cannot be written
is a piece too, for it only matters once everything before it has been written. The writers know no
pieces: these are for saying what is written without saying how.
-/

namespace SqlComposer

inductive Piece where
  /-- Words and punctuation of the language. -/
  | word (text : String)
  /-- Text of the caller that is copied as it is. -/
  | copied (text : String)
  /-- A name that is quoted as an identifier. -/
  | identifier (name : Name)
  /-- A name that an alias may follow. -/
  | reference (name : Name)
  /-- A name that a direction may follow. -/
  | ordering (name : Name)
  /-- A name that is quoted whatever it holds. -/
  | quoted (name : Name)
  | value (v : Value)
  /-- The count of LIMIT or OFFSET, which some dialects bind. -/
  | count (n : Nat)
  /-- A value that is written as a text and not bound. -/
  | display (v : Value)
  /-- A SELECT, without parentheses. -/
  | subselect (id : SelectId)
  /-- The items left in the stream of the given number, with commas between them. -/
  | streamed (number : Nat) (items : List (List Piece))
  /-- Something that stands for a column and is no name, in front of pieces that are written before
  it becomes a text. -/
  | unnamed (column : Value) (behind : List Piece)
  /-- An identifier in front of pieces that are written before it. -/
  | lateIdentifier (name : Name) (behind : List Piece)
  /-- What cannot be written, and why. -/
  | refused (cause : ClauseError)

namespace Piece

/-- A column, behind which the given pieces follow. -/
def column (given : Value) (behind : List Piece) : List Piece :=
  match given.name? with
  | some name => identifier name :: behind
  | none => unnamed given [] :: behind

/-- A column that becomes a text only after the given pieces have been written, if it is no name. -/
def lateColumn (given : Value) (behind : List Piece) : List Piece :=
  match given.name? with
  | some name => identifier name :: behind
  | none => [unnamed given behind]

/-- Pieces with a word between each two neighbours. -/
def joined (word : String) (parts : List (List Piece)) : List Piece :=
  [Piece.word word].intercalate parts

def parenthesized (pieces : List Piece) : List Piece :=
  word "(" :: (pieces ++ [word ")"])

end Piece

end SqlComposer
