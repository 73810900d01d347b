import SqlComposer.Dialect.Database
import SqlComposer.Text.UpperCase
import SqlComposer.Text.WholeNumber

/-!
# Known databases

A library of databases. Behind the name of one may follow settings that are checked and have no
effect here.
-/

namespace SqlComposer

namespace Database

/-! ## What is known -/

/-- The databases that quote with the double quote, with the grave accent, with the apostrophe, and
with square brackets. -/
def byQuotes : List ((String × String) × List String) :=
  [(("\"", "\""),
    ["athena", "clickhouse", "dremio", "druid", "duckdb", "dune", "exasol", "materialize", "oracle",
      "postgres", "presto", "redshift", "risingwave", "snowflake", "sqlite", "teradata", "trino",
      ""]),
    (("\x60", "\x60"),
    ["bigquery", "databricks", "doris", "drill", "hive", "mysql", "prql", "singlestore", "solr",
      "spark", "spark2", "starrocks"]),
    (("'", "'"), ["dax"]),
    (("[", "]"), ["fabric", "tableau", "tsql"])]

/-- The opening and closing quote of a database. The empty name stands for a database in general. -/
def quotes? (database : String) : Option (String × String) :=
  (byQuotes.find? fun group => group.2.contains database).map Prod.fst

/-! ## Settings -/

/-- What stands behind the key of a setting: a switch, which a key on its own turns on; a text; or,
behind more than one equals sign, nothing that counts. -/
inductive Setting where
  | switch
  | written (text : List Char)
  | missing
deriving DecidableEq

def isSwitch (written : List Char) : Bool :=
  ["true", "1", "false", "0"].contains (String.ofList (written.map Char.toLower))

/-- A setting with its key. -/
def setting (given : List Char) : List Char × Setting :=
  match Text.splitAll (· == '=') given with
  | [key] => (Text.trimChars key, .switch)
  | [key, value] =>
    (Text.trimChars key,
      if isSwitch (Text.trimChars value) then .switch else .written (Text.trimChars value))
  | key :: _ => (Text.trimChars key, .missing)
  | [] => ([], .missing)

/-- The last setting under a key, which is the one that counts. -/
def lastUnder (key : String) (settings : List (List Char × Setting)) : Option Setting :=
  settings.reverse.lookup key.toList

/-- Whether a version is written as whole numbers with dots between them; only three count. -/
def isVersion (written : List Char) : Bool :=
  ((Text.splitAll (· == '.') written).take 3).all Text.isWholeNumber

/-- Whether a version that may be missing is understood. -/
def isGoodVersion : Option Setting → Bool
  | none => true
  | some (.written version) => isVersion version
  | some _ => false

def foldingStrategies : List String :=
  ["LOWERCASE", "UPPERCASE", "CASE_SENSITIVE", "CASE_INSENSITIVE", "CASE_INSENSITIVE_UPPERCASE"]

/-- Whether a folding strategy that may be missing is one, in any letter case. -/
def isGoodStrategy : Option Setting → Bool
  | some (.written strategy) =>
    foldingStrategies.contains (String.ofList (Text.upperChars strategy))
  | _ => true

/-- Whether there is a setting under no other key than the two that are known. -/
def areKnown (settings : List (List Char × Setting)) : Bool :=
  settings.all fun entry =>
    entry.1 = "version".toList || entry.1 = "normalization_strategy".toList

/-- Checks the settings behind the name of a database: the version, then the strategy, then whether
there are others. -/
def checkSettings (settings : List (List Char × Setting)) : Except Fault Unit :=
  let strategy := lastUnder "normalization_strategy" settings
  if !isGoodVersion (lastUnder "version" settings) then .error .unknown
  else if strategy = some .switch then .error (.lacking (.bool true) "upper")
  else if isGoodStrategy strategy && areKnown settings then .ok ()
  else .error .unknown

/-- The quotes of the database that a text names. -/
def quotesFor (text : String) : Except Fault (String × String) :=
  let (first, settings) := Text.split (· == ',') text.toList
  match quotes? (String.ofList (Text.trimChars first)) with
  | none => .error .unknown
  | some quotes => do
    checkSettings (settings.map setting)
    return quotes

/-! ## What may be relied on -/

theorem quotesOf_quotes {database : String} {quotes : String × String}
    (h : quotes? database = some quotes) :
    quotesOf (.ofText quotes.1) = .ok (.ofText quotes.1, .ofText quotes.2) := by
  obtain ⟨group, hfind, rfl⟩ := Option.map_eq_some_iff.mp h
  have hgroup := List.mem_of_find?_eq_some hfind
  simp only [byQuotes, List.mem_cons, List.not_mem_nil, or_false] at hgroup
  rcases hgroup with rfl | rfl | rfl | rfl
  · exact quotesOf_singleton (c := '"') (by decide +kernel) 0
  · exact quotesOf_singleton (c := '\x60') (by decide +kernel) 0
  · exact quotesOf_singleton (c := '\'') (by decide +kernel) 0
  · exact quotesOf_singleton (c := '[') (by decide +kernel) 0

/-- The name of a database is one word in lower case without commas, or it is empty. -/
theorem name_of_quotes {database : String} {quotes : String × String}
    (h : quotes? database = some quotes) :
    database.toList.map Char.toLower = database.toList ∧
      Text.split (· == ',') database.toList = (database.toList, []) ∧
        Text.trimChars database.toList = database.toList := by
  have hall : ∀ group ∈ byQuotes, ∀ database ∈ group.2,
      database.toList.map Char.toLower = database.toList ∧
        Text.split (· == ',') database.toList = (database.toList, []) ∧
          Text.trimChars database.toList = database.toList := by
    decide +kernel
  obtain ⟨group, hfind, -⟩ := Option.map_eq_some_iff.mp h
  have hname := List.find?_some hfind
  exact hall group (List.mem_of_find?_eq_some hfind) database (List.contains_iff_mem.mp hname)

/-- A text that names a database has its name, and quotes are found for the name alone. -/
theorem exists_of_quotesFor {text : String} {quotes : String × String}
    (h : quotesFor text = .ok quotes) :
    quotes? (nameIn text) = some quotes ∧ quotesFor (nameIn text) = .ok quotes := by
  unfold quotesFor at h
  rcases hsplit : Text.split (· == ',') text.toList with ⟨first, settings⟩
  simp only [hsplit] at h
  cases hquotes : quotes? (String.ofList (Text.trimChars first)) with
  | none =>
      rw [hquotes] at h
      cases h
  | some found =>
      rw [hquotes] at h
      obtain ⟨hlower, halone, htrim⟩ := name_of_quotes hquotes
      rw [String.toList_ofList] at hlower halone htrim
      have hname : nameIn text = String.ofList (Text.trimChars first) := by
        rw [nameIn, hsplit, hlower]
      have hsame : found = quotes := by
        cases hchecked : checkSettings (settings.map setting) with
        | error fault => simp only [hchecked] at h; cases h
        | ok checked => simp only [hchecked] at h; cases h; rfl
      refine ⟨hname ▸ hsame ▸ hquotes, ?_⟩
      rw [hname, quotesFor, String.toList_ofList, halone]
      simp only [htrim, hquotes, hsame]
      rfl

end Database

/-- The databases of the table. -/
def Databases.known : Databases where
  quotesFor := Database.quotesFor
  quotesOf_quotesFor h := Database.quotesOf_quotes (Database.exists_of_quotesFor h).1
  quotesFor_nameIn h _ := (Database.exists_of_quotesFor h).2

end SqlComposer
