import SqlComposer.Name
import SqlComposer.Text.Quoted

/-!
# The log

What happened, as lines under a tree of loggers, and the settings that decide which of the lines are
shown and where.
-/

namespace SqlComposer

/-! ## Lines -/

/-- How serious a line is. -/
inductive LogLevel where
  | notSet
  | debug
  | info
  | warning
  | error
  | critical
deriving DecidableEq

namespace LogLevel

def number : LogLevel → Nat
  | notSet => 0
  | debug => 10
  | info => 20
  | warning => 30
  | error => 40
  | critical => 50

def label : LogLevel → String
  | notSet => "NOTSET"
  | debug => "DEBUG"
  | info => "INFO"
  | warning => "WARNING"
  | error => "ERROR"
  | critical => "CRITICAL"

/-- The level with the given name; two of them have two names. -/
def ofLabel? : String → Option LogLevel
  | "NOTSET" => some notSet
  | "DEBUG" => some debug
  | "INFO" => some info
  | "WARNING" => some warning
  | "WARN" => some warning
  | "ERROR" => some error
  | "CRITICAL" => some critical
  | "FATAL" => some critical
  | _ => none

/-- The level that counts for a logger: without one of its own, warnings and worse. -/
def effective : LogLevel → LogLevel
  | notSet => warning
  | level => level

end LogLevel

/-- The format in which lines are written unless another one is set. -/
def basicFormat : String := "%(levelname)s:%(name)s:%(message)s"

inductive LevelError where
  /-- Nothing has that name, given in capitals. -/
  | unknownName (name : String)
  /-- The name is that of the basic format. -/
  | nameOfFormat
  /-- The name is that of the table of format styles. -/
  | nameOfStyles
deriving DecidableEq

/-- One entry of the table of format styles: the character that marks a place, the kind of style,
and its basic format. -/
def shownStyle (mark kind format : String) : String :=
  Text.quoted mark ++ ": (<class 'logging." ++ kind ++ "'>, " ++ Text.quoted format ++ ")"

def shownStyles : String :=
  "\x7b" ++
    ", ".intercalate
      [shownStyle "%" "PercentStyle" basicFormat,
        shownStyle "\x7b" "StrFormatStyle"
          "\x7blevelname\x7d:\x7bname\x7d:\x7bmessage\x7d",
        shownStyle "$" "StringTemplateStyle"
          "$\x7blevelname\x7d:$\x7bname\x7d:$\x7bmessage\x7d"] ++
    "\x7d"

def LevelError.message : LevelError → String
  | .unknownName name => "module 'logging' has no attribute '" ++ name ++ "'"
  | .nameOfFormat => "Unknown level: " ++ Text.quoted basicFormat
  | .nameOfStyles => "Level not an integer or a valid string: " ++ shownStyles

structure LogLine where
  logger : String
  level : LogLevel := .debug
  message : String

/-! ## Loggers -/

def rootLogger : String := "sqlbricks"

/-- The logger of the given name. A name that does not start like the root is put below it. -/
def loggerName (name : Option Name) : String :=
  match name with
  | none => rootLogger
  | some name =>
    if rootLogger.toList.isPrefixOf name.text.toList then name.display
    else rootLogger ++ "." ++ name.display

def renderLogger : String := loggerName (some (.plain "renderer"))

def dialectLogger : String := loggerName (some (.plain "dialect"))

/-! ## Settings -/

/-- Where lines are shown, and from which level on. -/
structure LogSettings where
  level : LogLevel
  toFile : Bool
  extraHandlers : Nat

namespace LogSettings

/-- The level with a name in any letter case. -/
def levelOf (name : String) : Except LevelError LogLevel :=
  match LogLevel.ofLabel? (Text.upperCase name) with
  | some level => .ok level
  | none =>
    if Text.upperCase name = "BASIC_FORMAT" then .error .nameOfFormat
    else if Text.upperCase name = "_STYLES" then .error .nameOfStyles
    else .error (.unknownName (Text.upperCase name))

/-- The handlers that are in place, in order: the console, perhaps a file, and those added. -/
def handlers (settings : LogSettings) : List String :=
  ["StreamHandler"] ++ (if settings.toFile then ["FileHandler"] else []) ++
    List.replicate settings.extraHandlers "NullHandler"

/-- The line that says that the settings have been made. -/
def announcement (level : String) : LogLine where
  logger := rootLogger
  message := "sqlbricks logging configured at level " ++ level

/-- The lines that are serious enough to be shown. -/
def shownLines (settings : LogSettings) (lines : List LogLine) : List LogLine :=
  lines.filter fun line => settings.level.effective.number ≤ line.level.number

end LogSettings

end SqlComposer
