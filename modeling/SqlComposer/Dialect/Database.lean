import SqlComposer.Dialect.Options

/-!
# Databases

The dialects of databases. Which databases there are, with which quotes, and what may stand behind
their names is up to a library of them, and only what is relied on here is asked of it. The
placeholders are those that the usual drivers of a database expect.
-/

namespace SqlComposer

namespace Database

/-- The placeholders that a database is used with. -/
def placeholderStyle (database : String) : PlaceholderStyle :=
  if ["postgres", "redshift", "materialize", "risingwave"].contains database then .dollar
  else if database = "oracle" then .colon
  else .questionMark

/-- The name of the database in a text, in lower case; settings may follow it behind commas. -/
def nameIn (text : String) : String :=
  String.ofList ((Text.trimChars (Text.split (· == ',') text.toList).1).map Char.toLower)

/-- Why no database is found: the text names none that is known, with settings that are understood;
or a value lacks what is asked of it. -/
inductive Fault where
  | unknown
  | lacking (given : Value) (part : String)

end Database

/-- A library of databases, which finds the opening and the closing quote for a text. -/
structure Databases where
  quotesFor : String → Except Database.Fault (String × String)
  /-- The quotes of a database are a pair that its opening quote gives. -/
  quotesOf_quotesFor {text : String} {quotes : String × String} :
    quotesFor text = .ok quotes →
      quotesOf (.ofText quotes.1) = .ok (.ofText quotes.1, .ofText quotes.2)
  /-- A database is known by its name alone, but the empty name may stand for any. -/
  quotesFor_nameIn {text : String} {quotes : String × String} :
    quotesFor text = .ok quotes → Database.nameIn text ≠ "" →
      quotesFor (Database.nameIn text) = .ok quotes

namespace Dialect

def ofQuotes (database : String) (quotes : String × String) : Dialect where
  style := .keyword (.placeholderStyle (Database.placeholderStyle database))
  opening := .ofText quotes.1
  closing := .ofText quotes.2
  bindsCounts := .bool false
  name := .ofText database

/-- The dialect of a database, given by its name and perhaps settings behind commas. -/
def ofDatabase (databases : Databases) (given : Value) : Except OptionError Dialect :=
  match given.visibleName? with
  | none => .error (.unknownDialect given)
  | some name =>
    match databases.quotesFor name.text with
    | .ok quotes => .ok (ofQuotes (Database.nameIn name.text) quotes)
    | .error .unknown => .error (.unknownDialect given)
    | .error (.lacking value part) => .error (.partMissing value part)

end Dialect

end SqlComposer
