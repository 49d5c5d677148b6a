import DoomPatch.Fault
import DoomPatch.Text.Case
import DoomPatch.Text.Quoted

/-!
# Logging

The level and the form of log lines, as they are named in settings.
-/

namespace DoomPatch

/-- The least level of log lines. -/
inductive LogLevel where
  /-- Everything. -/
  | debug
  /-- What happens. -/
  | info
  /-- What looks wrong. -/
  | warn
  /-- What is wrong. -/
  | error
  /-- What stops a run under development. -/
  | dpanic
  /-- What stops a run. -/
  | panic
  /-- What ends the program. -/
  | fatal
deriving DecidableEq, Repr

/-- The form of log lines. -/
inductive LogFormat where
  /-- For people. -/
  | console
  /-- For programs. -/
  | json
deriving DecidableEq, Repr

/-- Why log lines cannot be set up. -/
inductive LogError where
  /-- There is no such level. -/
  | level
  /-- There is no such form. -/
  | format (name : String)

/-- The fault that reports the error. -/
def LogError.fault : LogError → Fault
  | .level => Fault.invalid "invalid log level"
  | .format name => Fault.invalid ("unknown log format " ++ Text.quoted name)

namespace LogLevel

/-- The levels from the least. -/
def all : List LogLevel := [debug, info, warn, error, dpanic, panic, fatal]

/-- The name of a level. -/
def name : LogLevel → String
  | debug => "debug"
  | info => "info"
  | warn => "warn"
  | error => "error"
  | dpanic => "dpanic"
  | panic => "panic"
  | fatal => "fatal"

/-- The level of a name, in any case.  No name means what happens. -/
def ofName? (name : String) : Option LogLevel :=
  if name = "" then some info else all.find? fun l => l.name == Text.lower name

end LogLevel

/-- The form of a name, in any case.  No name means the form for people. -/
def LogFormat.ofName? (name : String) : Option LogFormat :=
  if Text.lower name = "json" then some .json
  else if Text.lower name = "console" ∨ name = "" then some .console
  else none

/-- Log lines as they are set up. -/
structure Logging where
  /-- The least level. -/
  level : LogLevel
  /-- The form. -/
  format : LogFormat

/-- Sets up log lines. -/
def Logging.create (level format : String) : Except LogError Logging :=
  match LogLevel.ofName? level, LogFormat.ofName? format with
  | none, _ => .error .level
  | some _, none => .error (.format format)
  | some l, some f => .ok ⟨l, f⟩

end DoomPatch
