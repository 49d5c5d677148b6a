import DoomPatch.Fault
import DoomPatch.Text.Case

/-!
# Lumps

Converted text is collected in lumps, one per kind of definition.  A lump begins with the header of its
kind, which is written when the kind is opened for the first time.

* `LumpKind.all` — the six kinds in the order in which lumps are listed.
* `Buffer` — the lumps being written; text goes to the selected lump, and text written while none is
  selected is dropped and counted.
-/

namespace DoomPatch

/-- What a lump holds. -/
inductive LumpKind where
  /-- Things. -/
  | things
  /-- Attacks. -/
  | attacks
  /-- Weapons. -/
  | weapons
  /-- Sounds. -/
  | sounds
  /-- Language strings. -/
  | language
  /-- Radius triggers. -/
  | triggers
  /-- A number without a kind. -/
  | other (number : Int)
deriving DecidableEq, Repr

namespace LumpKind

/-- The kinds in the order in which lumps are listed. -/
def all : List LumpKind := [things, attacks, weapons, sounds, language, triggers]

/-- The kind of a number. -/
def ofNumber (n : Int) : LumpKind := if n < 0 then other n else (all[n.toNat]?).getD (other n)

/-- The number of a kind. -/
def number : LumpKind → Int
  | things => 0
  | attacks => 1
  | weapons => 2
  | sounds => 3
  | language => 4
  | triggers => 5
  | other n => n

/-- The name of the lump. -/
def name : LumpKind → String
  | things => "DDFTHING"
  | attacks => "DDFATK"
  | weapons => "DDFWEAP"
  | sounds => "DDFSFX"
  | language => "DDFLANG"
  | triggers => "RSCRIPT"
  | other _ => "UNKNOWN"

/-- What a lump begins with. -/
def header : LumpKind → String
  | things => "<THINGS>\n\n"
  | attacks => "<ATTACKS>\n\n"
  | weapons => "<WEAPONS>\n\n"
  | sounds => "<SOUNDS>\n\n"
  | language => "<LANGUAGES>\n\n"
  | triggers | other _ => ""

/-- The kind of a lump name, ignoring case. -/
def ofName? (s : String) : Option LumpKind := all.find? fun k => Text.sameFold s k.name

end LumpKind

/-- A finished lump. -/
structure Lump where
  /-- Its kind. -/
  kind : LumpKind
  /-- Its name. -/
  name : String
  /-- Its contents. -/
  text : String
deriving DecidableEq

/-- Lumps being written. -/
structure Buffer where
  /-- The opened kinds with their contents, in the order they were opened. -/
  opened : List (LumpKind × String) := []
  /-- The selected kind. -/
  current : Option LumpKind := none
  /-- How many writes found no selected kind. -/
  stray : Nat := 0
deriving DecidableEq

namespace Buffer

/-- The contents of a kind, if it was opened. -/
def find? (b : Buffer) (k : LumpKind) : Option String := (b.opened.find? fun e => e.1 == k).map (·.2)

/-- The contents of a kind; nothing if it was never opened. -/
def text (b : Buffer) (k : LumpKind) : String := (b.find? k).getD ""

/-- Selects a kind, and opens it if need be. -/
def select (b : Buffer) (k : LumpKind) : Buffer :=
  if (b.find? k).isSome then { b with current := some k }
  else { b with opened := b.opened ++ [(k, k.header)], current := some k }

/-- Writes to the selected kind. -/
def print (b : Buffer) (s : String) : Buffer :=
  match b.current with
  | none => { b with stray := b.stray + 1 }
  | some k => { b with opened := b.opened.map fun e => if e.1 = k then (e.1, e.2 ++ s) else e }

/-- Selects nothing. -/
def release (b : Buffer) : Buffer := { b with current := none }

/-- Writes a piece of text to a kind and selects nothing afterwards. -/
def write (b : Buffer) (k : LumpKind) (s : String) : Buffer := ((b.select k).print s).release

/-- The fault of writes that found no selected kind. -/
def fault? (b : Buffer) : Option Fault :=
  if b.stray = 0 then none
  else some (Fault.new Code.failedPrecondition s!"{b.stray} writes outside a lump")

/-- The opened lumps in listing order. -/
def lumps (b : Buffer) : List Lump :=
  LumpKind.all.filterMap fun k => (b.find? k).map fun t => ⟨k, k.name, t⟩

end Buffer
end DoomPatch
