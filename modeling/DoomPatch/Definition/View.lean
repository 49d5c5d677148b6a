import DoomPatch.Session

/-!
# What definitions are made from

Definitions read the game through a view.  In a view some things can be hidden and others can go by another
name; everything else is as the session has it.
-/

namespace DoomPatch

/-- A session with some things hidden or renamed. -/
structure View where
  /-- The patched game. -/
  session : Session
  /-- The things that cannot be seen. -/
  hidden : List Int := []
  /-- The things that go by another name. -/
  names : SortedMap Int String := ∅

namespace View

/-- A thing, unless it is hidden. -/
def thing? (v : View) (id : Int) : Option Thing :=
  if v.hidden.contains id then none
  else (v.session.thing? id).map fun t =>
    match v.names.get? id with
    | some name => { t with name }
    | none => t

/-- The frames. -/
def reel (v : View) : Reel := v.session.reel

/-- The name of a thing in definitions; a made-up one if it cannot be seen. -/
def thingName (v : View) (id : Int) : String :=
  ((v.thing? id).map (·.ddfName)).getD (Baseline.extraThingName id)

/-- The name of the thing that a field or argument refers to by a number counted from 1. -/
def referred? (v : View) (number : Int) : Option String :=
  if number ≤ 0 then none else (v.thing? (number - 1)).map (·.ddfName)

/-- The ammunition types in order. -/
def ammoTypes (v : View) : List Ammo :=
  (List.range Baseline.numAmmo).filterMap fun id => v.session.ammo? (Int.ofNat id)

/-- The name of an ammunition type in definitions. -/
def ammoName (v : View) (id : Int) : String := ((v.session.ammo? id).map (·.name)).getD "NOAMMO"

/-- The name of a sound in definitions.  It stays when the sound is renamed: only its contents change. -/
def soundRef (id : Int) : String :=
  match Baseline.sound? id with
  | some snd => Text.upper snd.name
  | none => Baseline.extraSoundName id

end View
end DoomPatch
