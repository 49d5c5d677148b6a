import DoomPatch.Fault

/-!
# Faults with shared notes

While a fault travels it is wrapped again and again, and a note added on the way has to be seen by every
holder of a fault that was wrapped without changing its code.  A `Dossier` keeps one current fault and the
sheets its notes are written on.  Wrapping shares the sheet, a change of code copies it, and a fault
without notes gets its sheet with the first note.
-/

namespace DoomPatch

/-- A current fault, if any, and the sheets of notes; a fault names its sheet by position. -/
structure Dossier where
  /-- The sheets, oldest first. -/
  sheets : List Notes := []
  /-- The fault at hand. -/
  current : Option (FaultOf (Option Nat)) := none

namespace Dossier

/-- The notes on a sheet; nothing for a fault without one. -/
def sheet (d : Dossier) : Option Nat → Notes
  | some i => (d.sheets[i]?).getD ∅
  | none => ∅

/-- Replaces the fault at hand. -/
def replace (d : Dossier) (f : Option (FaultOf (Option Nat))) : Dossier := { d with current := f }

/-- Starts a fault with a code. -/
def start (d : Dossier) (code : Code) (message : String) : Dossier :=
  d.replace (some (.coded code message none))

/-- Wraps the fault at hand. -/
def wrap (d : Dossier) (message : String) : Dossier :=
  d.replace (d.current.map fun f => FaultOf.wrap none f message)

/-- Wraps the fault at hand under another code; its notes are copied to a new sheet. -/
def wrapWithCode (d : Dossier) (code : Code) (message : String) : Dossier :=
  match d.current with
  | none => d
  | some f =>
    ⟨d.sheets ++ [d.sheet (f.notes?.getD none)],
      some (f.wrapWithCode code message (some d.sheets.length))⟩

/-- What stands for a cause that is missing. -/
def noCause : String := "%!w(<nil>)"

/-- Puts context in front of the fault at hand.  Without one, there is a fault of which the cause is missing. -/
def within (d : Dossier) (context : String) : Dossier :=
  d.replace (some (.within context (d.current.getD (.plain noCause))))

/-- Writes a note on a sheet. -/
def write (d : Dossier) (i : Nat) (key : String) (value : Note) : Dossier :=
  { d with sheets := d.sheets.modify i fun n => n.insert key value }

/-- Adds a note to the fault at hand, if it has a code itself. -/
def note (d : Dossier) (key : String) (value : Note) : Dossier :=
  match d.current with
  | some (.coded c m s) => go (fun s' => .coded c m s') s
  | some (.wrapped c m s cause) => go (fun s' => .wrapped c m s' cause) s
  | _ => d
where
  /-- Uses the sheet of the fault or takes a new one. -/
  go (rebuild : Option Nat → FaultOf (Option Nat)) : Option Nat → Dossier
    | some i => d.write i key value
    | none =>
      ({ sheets := d.sheets ++ [∅], current := some (rebuild (some d.sheets.length)) } : Dossier).write
        d.sheets.length key value

/-- Notes the entity that the fault at hand concerns. -/
def about (d : Dossier) (entity : String) (id : Int) : Dossier :=
  (d.note "entity" (.text entity)).note "id" (.number id)

end Dossier
end DoomPatch
