import SqlComposer.Error
import SqlComposer.Log

/-!
# Writing

What may happen while something is written: items are taken from streams, lines are added to the
log, and a fault may bring it to an end. What has happened by then stays.
-/

namespace SqlComposer

/-! ## Progress -/

/-- How many items have been taken from each stream, by its number, the newest entry first; and the
log. -/
structure Progress where
  taken : List (Nat × Nat) := []
  log : List LogLine := []

namespace Progress

def takenFrom (p : Progress) (stream : Nat) : Nat :=
  (p.taken.lookup stream).getD 0

/-- The progress after items have been taken from a stream, `count` of them in all. -/
def take (p : Progress) (stream count : Nat) : Progress :=
  { p with taken := (stream, count) :: p.taken }

def addLine (p : Progress) (line : LogLine) : Progress :=
  { p with log := p.log ++ [line] }

end Progress

/-! ## Faults -/

/-- Why a step fails: a clause or an option is refused, with the message about it; a value lacks
what is asked of it; or something is not used as it should be. -/
inductive Fault where
  | clause (cause : ClauseError) (message : String)
  | option (cause : OptionError) (message : String)
  | lacking (given : Value) (part : String)
  | misuse (reason : String)

/-- A computation that writes something. -/
abbrev Writing := EStateM Fault Progress

/-- A computation that writes something and may bind values on the way. It is given the values that
are bound already and hands them on with its own behind them. -/
abbrev Binding := StateT (List Value) Writing

namespace Writing

/-- Refuses a clause, with `shown` to show the values in the message. -/
def refuse {α : Type} (shown : Value → Writing String) (cause : ClauseError) : Writing α := do
  match cause with
  | .partMissing given part => throw (.lacking given part)
  | _ =>
    let message ← cause.message.text shown
    throw (.clause cause (Text.trim message))

/-- Refuses an option, with `shown` to show the values in the message. -/
def refuseOption {α : Type} (shown : Value → Writing String) (cause : OptionError) :
    Writing α := do
  match cause with
  | .partMissing given part => throw (.lacking given part)
  | _ =>
    let message ← cause.message.text shown
    throw (.option cause (Text.trim message))

def addLine (logger message : String) : Writing Unit :=
  modify fun p => p.addLine { logger, message }

/-- The items left in a stream, which has none then. -/
def takeAll (items : List Value) (stream : Nat) : Writing (List Value) :=
  modifyGet fun p => (items.drop (p.takenFrom stream), p.take stream items.length)

end Writing

end SqlComposer
