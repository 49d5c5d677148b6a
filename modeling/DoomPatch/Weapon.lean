import DoomPatch.Role

/-!
# Weapons and ammunition
-/

namespace DoomPatch

/-- The record of a weapon. -/
structure Weapon where
  /-- The name. -/
  name : String := ""
  /-- The ammunition; 4 and 5 mean none. -/
  ammo : Int := 0
  /-- The first frame of raising. -/
  up : Int := 0
  /-- The first frame of lowering. -/
  down : Int := 0
  /-- The first frame of holding. -/
  ready : Int := 0
  /-- The first frame of firing. -/
  attack : Int := 0
  /-- The first frame of the flash. -/
  flash : Int := 0
  /-- What a shot costs. -/
  perShot : Int := 0
  /-- The flag word. -/
  flags : UInt32 := 0
  /-- The key that selects the weapon. -/
  slot : Int := 0
  /-- The rank when a weapon is chosen by itself. -/
  priority : Int := 0
deriving DecidableEq, Inhabited

/-- The first frame of a role; 0 for the roles of things. -/
def Weapon.start (w : Weapon) : Role → Int
  | .up => w.up
  | .down => w.down
  | .ready => w.ready
  | .attack => w.attack
  | .flash => w.flash
  | _ => 0

/-- A type of ammunition. -/
structure Ammo where
  /-- The name. -/
  name : String := ""
  /-- How much the player can carry. -/
  max : Int := 0
  /-- What the small pickup holds. -/
  per : Int := 0
deriving DecidableEq, Inhabited

end DoomPatch
