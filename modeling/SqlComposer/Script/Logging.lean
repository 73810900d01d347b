import SqlComposer.Script.Run

/-!
# Logging

What is shown of the log of some expressions, once it has been set up.
-/

namespace SqlComposer.Script

/-- Why nothing is shown: the level is refused, or something fails. -/
inductive LoggingFault where
  | level (cause : LevelError)
  | fault (cause : Fault)

/-- The log as it is shown. -/
structure LoggingReport where
  settings : LogSettings
  lines : List LogLine

/-- The level that a value names, and the text it is announced by. -/
def levelOf (given : Value) : Except LoggingFault (LogLevel × String) :=
  match given.name? with
  | none => .error (.fault (.lacking given "upper"))
  | some name =>
    match LogSettings.levelOf name.text with
    | .ok level => .ok (level, name.display)
    | .error cause => .error (.level cause)

/-- Sets up the log, and then evaluates expressions. -/
def configureLogging (level : Value) (toFile : Bool) (extraHandlers : Nat)
    (expressions : List Expression) : Except LoggingFault LoggingReport := do
  let (level, announced) ← levelOf level
  let settings : LogSettings := { level, toFile, extraHandlers }
  match logOf expressions with
  | .ok lines =>
    return ⟨settings, settings.shownLines (LogSettings.announcement announced :: lines)⟩
  | .error fault => throw (.fault fault)

end SqlComposer.Script
