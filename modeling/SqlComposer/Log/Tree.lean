import SqlComposer.Log

/-!
# The tree of loggers

Loggers stand above one another by the dots in their names. What is set on a logger also counts for
those below it: the level for a logger without one of its own, the handlers as long as no logger on
the way up keeps the lines back.
-/

namespace SqlComposer

/-- What is set on a logger. The level is that of the least serious line it takes; with level zero,
the loggers above decide. -/
structure Logger where
  level : Nat := 0
  handlers : List String := []
  propagates : Bool := true
deriving DecidableEq

/-- The first level that is set on a way up. -/
def Logger.levelAlong : List Logger → Nat
  | [] => 0
  | logger :: above => if logger.level = 0 then levelAlong above else logger.level

/-- The handlers on a way up, which ends behind a logger that keeps the lines back. -/
def Logger.handlersAlong : List Logger → List String
  | [] => []
  | logger :: above => logger.handlers ++ if logger.propagates then handlersAlong above else []

/-- The loggers that there are: those that have been asked for by name, and the one above all. -/
structure Loggers where
  named : String → Option Logger
  top : Logger

namespace Loggers

/-- The loggers before anything is set. -/
def initial : Loggers where
  named _ := none
  top := { level := LogLevel.warning.number }

/-- The logger of the given name. Nothing is set on one that is asked for the first time. -/
def get (loggers : Loggers) (name : String) : Logger :=
  (loggers.named name).getD {}

def put (loggers : Loggers) (name : String) (logger : Logger) : Loggers :=
  { loggers with named := fun other => if other = name then some logger else loggers.named other }

/-- The names of the loggers above one, the nearest first, by the characters of its name from the
last to the first. What is in front of a dot names the next logger, if there is one. If there is
none, the search goes on in front of the character before the dot, so that the first one of two dots
side by side is passed over. -/
def namesAbove (loggers : Loggers) : List Char → List String
  | c :: last :: front =>
    if c = '.' then
      let name := String.ofList (last :: front).reverse
      if (loggers.named name).isSome then name :: loggers.namesAbove (last :: front)
      else loggers.namesAbove front
    else loggers.namesAbove (last :: front)
  | _ => []

/-- The way up from a logger: itself, the loggers above it, and the one above all. -/
def wayUp (loggers : Loggers) (name : String) : List Logger :=
  loggers.get name :: (loggers.namesAbove name.toList.reverse).map loggers.get ++ [loggers.top]

/-- The level that counts for a logger. -/
def levelOf (loggers : Loggers) (name : String) : Nat :=
  Logger.levelAlong (loggers.wayUp name)

/-- The handlers that the lines of a logger come to. -/
def handlersOf (loggers : Loggers) (name : String) : List String :=
  Logger.handlersAlong (loggers.wayUp name)

/-- The handlers that a line is given to. -/
def receivers (loggers : Loggers) (line : LogLine) : List String :=
  if loggers.levelOf line.logger ≤ line.level.number then loggers.handlersOf line.logger else []

end Loggers

namespace LogSettings

/-- What the settings leave on the root of the library's loggers. -/
def rootSettings (settings : LogSettings) : Logger where
  level := settings.level.number
  handlers := settings.handlers
  propagates := false

/-- Setting up the log concerns the root of the library's loggers and no other. -/
def setUp (settings : LogSettings) (loggers : Loggers) : Loggers :=
  loggers.put rootLogger settings.rootSettings

end LogSettings

end SqlComposer
