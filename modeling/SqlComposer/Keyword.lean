import SqlComposer.Text.Blank
import SqlComposer.Text.UpperCase

/-!
# Keywords

Two small vocabularies have members that stand for a text of their own: the kinds of join, and the
styles in which placeholders are written. A member is accepted wherever a text is.
-/

namespace SqlComposer

/-! ## Joins -/

/-- The kinds of join between two tables. -/
inductive JoinKind where
  | inner
  | left
  | right
  | full
deriving DecidableEq

/-- The words that a join clause starts with. -/
def JoinKind.text : JoinKind → String
  | .inner => "INNER JOIN"
  | .left => "LEFT JOIN"
  | .right => "RIGHT JOIN"
  | .full => "FULL OUTER JOIN"

def JoinKind.label : JoinKind → String
  | .inner => "INNER"
  | .left => "LEFT"
  | .right => "RIGHT"
  | .full => "FULL"

def JoinKind.ofLabel? (label : List Char) : Option JoinKind :=
  [JoinKind.inner, .left, .right, .full].find? fun kind => kind.label.toList = label

/-- Drops the last word if it is `word` and not the only one. -/
def dropTrailing (word : String) (words : List (List Char)) : List (List Char) :=
  if 2 ≤ words.length && words.getLast? == some word.toList then words.dropLast else words

/-- Reads a kind of join in any letter case and spacing: a trailing JOIN and then a trailing OUTER
may follow the label. -/
def JoinKind.parse? (s : String) : Option JoinKind :=
  match dropTrailing "OUTER" (dropTrailing "JOIN" (Text.words (Text.upperChars s.toList))) with
  | [label] => JoinKind.ofLabel? label
  | _ => none

/-! ## Placeholders -/

/-- How the placeholder of a bound value is written. -/
inductive PlaceholderStyle where
  | questionMark
  | dollar
  | colon
  | percent
deriving DecidableEq

def PlaceholderStyle.text : PlaceholderStyle → String
  | .questionMark => "qmark"
  | .dollar => "numeric"
  | .colon => "positional_colon"
  | .percent => "pyformat_positional"

def PlaceholderStyle.label : PlaceholderStyle → String
  | .questionMark => "QMARK"
  | .dollar => "NUMERIC"
  | .colon => "POSITIONAL_COLON"
  | .percent => "POSITIONAL_PYFORMAT"

/-- The short form of a style: its placeholder, without the number if it has one. -/
def PlaceholderStyle.token : PlaceholderStyle → String
  | .questionMark => "?"
  | .dollar => "$"
  | .colon => ":"
  | .percent => "%s"

/-- Whether placeholders carry the number of their value. -/
def PlaceholderStyle.isNumbered : PlaceholderStyle → Bool
  | .dollar | .colon => true
  | .questionMark | .percent => false

/-- All styles, in the order in which messages list their tokens. -/
def PlaceholderStyle.all : List PlaceholderStyle :=
  [.dollar, .questionMark, .colon, .percent]

/-- The style with the given token or, failing that, the given text. -/
def PlaceholderStyle.ofText? (s : String) : Option PlaceholderStyle :=
  (all.find? fun style => style.token = s) <|> (all.find? fun style => style.text = s)

/-! ## Members of either vocabulary -/

/-- A member of one of the two vocabularies. -/
inductive Keyword where
  | joinKind (kind : JoinKind)
  | placeholderStyle (style : PlaceholderStyle)
deriving DecidableEq

def Keyword.text : Keyword → String
  | .joinKind kind => kind.text
  | .placeholderStyle style => style.text

def Keyword.vocabulary : Keyword → String
  | .joinKind _ => "JoinKind"
  | .placeholderStyle _ => "ParameterStyle"

/-- A keyword by its vocabulary and label, which is how it is shown. -/
def Keyword.display : Keyword → String
  | .joinKind kind => "JoinKind." ++ kind.label
  | .placeholderStyle style => "ParameterStyle." ++ style.label

end SqlComposer
