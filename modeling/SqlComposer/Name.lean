import SqlComposer.Keyword

/-!
# Names

Columns, tables and aliases are named by a text. A keyword may be given instead of a plain text; it
is recognised by the text it stands for, and shown by its label when it is written on its own.
-/

namespace SqlComposer

/-- A text given as a name: plain, or as the keyword that stands for it. -/
inductive Name where
  | plain (text : String)
  | keyword (word : Keyword)
deriving DecidableEq

namespace Name

/-- The characters by which a name is recognised, compared and sorted. -/
def text : Name → String
  | plain text => text
  | keyword word => word.text

/-- The name as it is written on its own. -/
def display : Name → String
  | plain text => text
  | keyword word => word.display

/-- The name as it is written as an entry of a list: always by its text. -/
def asEntry (name : Name) : Name :=
  plain name.text

end Name

end SqlComposer
