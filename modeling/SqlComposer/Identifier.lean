import SqlComposer.Dialect

/-!
# Identifiers

Which names are quoted. A bare identifier is a letter or underscore followed by letters, digits,
underscores and dollar signs, all ASCII; a path is one or more of them joined by dots. A path is
quoted segment by segment, a star after its last dot is left alone, and a name of any other shape is
written as it is. An alias behind a path is quoted as well, and an ordering keeps its direction
behind the expression.

One line feed at the very end of a name does not count for its shape.
-/

namespace SqlComposer

namespace Identifier

/-! ## Shapes -/

def isStart (c : Char) : Bool :=
  c.isAlpha || c = '_'

def isFollower (c : Char) : Bool :=
  c.isAlphanum || c = '_' || c = '$'

def isBare : List Char → Bool
  | [] => false
  | c :: cs => isStart c && cs.all isFollower

def segments (cs : List Char) : List (List Char) :=
  Text.splitAll (· == '.') cs

def isPath (cs : List Char) : Bool :=
  (segments cs).all isBare

def isStarredPath (cs : List Char) : Bool :=
  (segments cs).getLast? == some ['*'] && (segments cs).dropLast != [] &&
    (segments cs).dropLast.all isBare

/-- The characters without one line feed at the end. -/
def withoutLineEnd (cs : List Char) : List Char :=
  if cs.getLast? == some '\n' then cs.dropLast else cs

/-- Whether a name is quoted segment by segment. -/
def isQuotable (cs : List Char) : Bool :=
  isPath (withoutLineEnd cs) || isStarredPath (withoutLineEnd cs)

/-! ## Aliases -/

/-- A path with an alias behind it, with or without the word AS between them. -/
structure Aliased where
  path : List Char
  hasAs : Bool
  name : List Char
deriving DecidableEq

def isAs (word : List Char) : Bool :=
  word = ['a', 's'] || word = ['A', 's'] || word = ['a', 'S'] || word = ['A', 'S']

/-- The first word of the characters, and what follows it and the blanks behind it. -/
def firstWord (cs : List Char) : List Char × List Char :=
  (cs.takeWhile (!Text.isBlank ·), (cs.dropWhile (!Text.isBlank ·)).dropWhile Text.isBlank)

def isOneWord (cs : List Char) : Bool :=
  (cs.dropWhile (!Text.isBlank ·)).isEmpty

/-- Reads a path, blanks, perhaps the word AS and blanks, and a bare identifier as the alias. -/
def aliased? (cs : List Char) : Option Aliased :=
  let (path, behindPath) := firstWord (withoutLineEnd cs)
  let (word, behindWord) := firstWord behindPath
  if !isPath path then none
  else if isOneWord behindPath then
    if isBare word then some ⟨path, false, word⟩ else none
  else if isAs word && isBare behindWord then some ⟨path, true, behindWord⟩
  else none

/-! ## Orderings -/

/-- An expression to order by, with its direction and perhaps the place of NULL values. -/
structure Ordered where
  expression : List Char
  direction : List Char
  nulls : Option (List Char)
deriving DecidableEq

/-- Whether a character is the given capital letter in either case. The letters S and I have forms
beyond ASCII. -/
def isLetter (capital c : Char) : Bool :=
  c = capital || c = capital.toLower || (capital = 'S' && c = 'ſ') ||
    (capital = 'I' && (c = 'İ' || c = 'ı'))

/-- Whether the characters spell a word that is given in capitals. -/
def spells : List Char → List Char → Bool
  | [], [] => true
  | capital :: capitals, c :: cs => isLetter capital c && spells capitals cs
  | _, _ => false

def isDirection (word : List Char) : Bool :=
  spells ['A', 'S', 'C'] word || spells ['D', 'E', 'S', 'C'] word

/-- Whether two words say where NULL values go. -/
def areNullsWords (first second : List Char) : Bool :=
  spells ['N', 'U', 'L', 'L', 'S'] first &&
    (spells ['F', 'I', 'R', 'S', 'T'] second || spells ['L', 'A', 'S', 'T'] second)

/-- Whether nothing is left but perhaps one line feed. -/
def isAtEnd (cs : List Char) : Bool :=
  cs = [] || cs = ['\n']

/-- Reads blanks and a direction, perhaps with the place of NULL values, up to the end; gives the
words in upper case. -/
def direction? (cs : List Char) : Option (List Char × Option (List Char)) :=
  if (cs.takeWhile Text.isBlank).isEmpty then none
  else
    let (word, behindWord) := (cs.dropWhile Text.isBlank).span (!Text.isBlank ·)
    if !isDirection word then none
    else if isAtEnd behindWord then some (Text.upperChars word, none)
    else
      let (first, behindFirst) := (behindWord.dropWhile Text.isBlank).span (!Text.isBlank ·)
      let (second, behindSecond) := (behindFirst.dropWhile Text.isBlank).span (!Text.isBlank ·)
      if areNullsWords first second && isAtEnd behindSecond then
        some (Text.upperChars word, some (Text.upperChars first ++ ' ' :: Text.upperChars second))
      else none

/-- Looks for the shortest expression, on one line, that a direction follows; `before` is the
expression so far, last character first. -/
def orderedFrom (before : List Char) : List Char → Option Ordered
  | [] => none
  | c :: cs =>
    match if before.isEmpty then none else direction? (c :: cs) with
    | some (direction, nulls) => some ⟨before.reverse, direction, nulls⟩
    | none => if c = '\n' then none else orderedFrom (c :: before) cs

def ordered? (cs : List Char) : Option Ordered :=
  orderedFrom [] cs

/-- The direction and the place of NULL values, as they stand behind the expression. -/
def Ordered.suffix (ordered : Ordered) : String :=
  match ordered.nulls with
  | some nulls => " " ++ String.ofList ordered.direction ++ " " ++ String.ofList nulls
  | none => " " ++ String.ofList ordered.direction

/-! ## Parts -/

/-- A part of a name as it is written: copied, or put between quotes if the dialect has some. -/
inductive NamePart where
  | copied (text : String)
  | quoted (name : Name)
deriving DecidableEq

/-- One segment of a path. A star stays as it is. -/
def segmentPart (segment : List Char) : NamePart :=
  if segment = ['*'] then .copied "*" else .quoted (.plain (String.ofList segment))

/-- The segments of a path, with the dots between them. -/
def pathParts (cs : List Char) : List NamePart :=
  ((segments cs).map segmentPart).intersperse (.copied ".")

end Identifier

namespace Dialect

open Identifier

def identifierParts (d : Dialect) (name : Name) : List NamePart :=
  if d.isQuoting && isQuotable name.text.toList then pathParts name.text.toList
  else [.copied name.display]

/-- The parts of a name as an entry of a select list or as a table, where an alias may follow it. -/
def referenceParts (d : Dialect) (name : Name) : List NamePart :=
  match if d.isQuoting then aliased? name.text.toList else none with
  | some found =>
    d.identifierParts (.plain (String.ofList found.path)) ++
      [.copied (if found.hasAs then " AS " else " "), .quoted (.plain (String.ofList found.name))]
  | none => d.identifierParts name

/-- The parts of a name as an expression to order by, where a direction may follow it. -/
def orderingParts (d : Dialect) (name : Name) : List NamePart :=
  match ordered? name.text.toList with
  | some found =>
    d.identifierParts (.plain (String.ofList found.expression)) ++ [.copied found.suffix]
  | none => d.referenceParts name

/-! ## Written names -/

/-- A part as it is written under a dialect whose quotes are texts. -/
def partText (d : Dialect) : NamePart → String
  | .copied text => text
  | .quoted name => (d.quote name).display

def spelled (d : Dialect) (parts : List NamePart) : String :=
  String.join (parts.map d.partText)

def identifier (d : Dialect) (name : Name) : String :=
  d.spelled (d.identifierParts name)

/-- A name as an entry of a select list or as a table. -/
def reference (d : Dialect) (name : Name) : String :=
  d.spelled (d.referenceParts name)

def ordering (d : Dialect) (name : Name) : String :=
  d.spelled (d.orderingParts name)

end Dialect

end SqlComposer
