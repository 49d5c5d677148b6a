/-!
# Global values

The numbers of the game that belong to no thing, frame, weapon or sound.
-/

namespace DoomPatch

/-- The global values a patch can change. -/
structure Misc where
  /-- The player's hit points at the start. -/
  initialHealth : Int := 0
  /-- The player's bullets at the start. -/
  initialBullets : Int := 0
  /-- The limit of health bonuses. -/
  maxHealth : Int := 0
  /-- The limit of armour bonuses. -/
  maxArmor : Int := 0
  /-- The class of green armour. -/
  greenClass : Int := 0
  /-- The class of blue armour. -/
  blueClass : Int := 0
  /-- The limit of the soul sphere. -/
  maxSoulsphere : Int := 0
  /-- What the soul sphere gives. -/
  soulsphereHealth : Int := 0
  /-- What the mega sphere gives. -/
  megasphereHealth : Int := 0
  /-- Hit points of the god mode. -/
  godHealth : Int := 0
  /-- Armour of the ammunition cheat. -/
  idfaArmor : Int := 0
  /-- Armour class of the ammunition cheat. -/
  idfaClass : Int := 0
  /-- Armour of the full cheat. -/
  idkfaArmor : Int := 0
  /-- Armour class of the full cheat. -/
  idkfaClass : Int := 0
  /-- Cells per shot of the largest gun. -/
  bfgCells : Int := 0
  /-- Whether monsters of a kind fight each other. -/
  infight : Int := 0
deriving DecidableEq, Inhabited

namespace Misc

/-- The value of `infight` that makes monsters of a kind fight each other. -/
def infightOn : Int := 221

/-- Whether monsters of a kind fight each other. -/
def infighting (m : Misc) : Bool := m.infight == infightOn

end Misc
end DoomPatch
