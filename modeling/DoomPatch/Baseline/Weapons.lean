import DoomPatch.Flag
import DoomPatch.Weapon
import DoomPatch.Misc

/-!
# The weapons, ammunition and global values of the unpatched game
-/

namespace DoomPatch
namespace Baseline

/-- The nine weapons by number. -/
def weapons : Array Weapon := #[
  { name := "FIST", ammo := 5, up := 4, down := 3, ready := 2, attack := 5, flash := 0,
    perShot := 0, slot := 1, priority := 0,
    flags := WeaponFlag.fleeMelee ||| WeaponFlag.autoSwitchFrom ||| WeaponFlag.noAutoSwitchTo },
  { name := "PISTOL", ammo := 0, up := 12, down := 11, ready := 10, attack := 13, flash := 17,
    perShot := 1, slot := 2, priority := 4,
    flags := WeaponFlag.autoSwitchFrom },
  { name := "SHOTGUN", ammo := 1, up := 20, down := 19, ready := 18, attack := 21, flash := 30,
    perShot := 1, slot := 3, priority := 10 },
  { name := "CHAINGUN", ammo := 0, up := 51, down := 50, ready := 49, attack := 52, flash := 55,
    perShot := 1, slot := 4, priority := 12 },
  { name := "ROCKET_LAUNCHER", ammo := 3, up := 59, down := 58, ready := 57, attack := 60, flash := 63,
    perShot := 1, slot := 5, priority := 2,
    flags := WeaponFlag.noAutoFire },
  { name := "PLASMA_RIFLE", ammo := 2, up := 76, down := 75, ready := 74, attack := 77, flash := 79,
    perShot := 1, slot := 6, priority := 14 },
  { name := "BFG_9000", ammo := 2, up := 83, down := 82, ready := 81, attack := 84, flash := 88,
    perShot := 40, slot := 7, priority := 6,
    flags := WeaponFlag.noAutoFire },
  { name := "CHAINSAW", ammo := 5, up := 70, down := 69, ready := 67, attack := 71, flash := 0,
    perShot := 0, slot := 1, priority := 8,
    flags := WeaponFlag.noThrust ||| WeaponFlag.fleeMelee ||| WeaponFlag.noAutoSwitchTo },
  { name := "SUPER_SHOTGUN", ammo := 1, up := 34, down := 33, ready := 32, attack := 35, flash := 47,
    perShot := 2, slot := 3, priority := 16 }]

/-- The four types of ammunition by number. -/
def ammo : Array Ammo := #[
  { name := "BULLETS", max := 200, per := 10 },
  { name := "SHELLS", max := 50, per := 4 },
  { name := "CELLS", max := 300, per := 20 },
  { name := "ROCKETS", max := 50, per := 1 }]

/-- The global values. -/
def misc : Misc where
  initialHealth := 100
  initialBullets := 50
  maxHealth := 200
  maxArmor := 200
  greenClass := 1
  blueClass := 2
  maxSoulsphere := 200
  soulsphereHealth := 100
  megasphereHealth := 200
  godHealth := 100
  idfaArmor := 200
  idfaClass := 2
  idkfaArmor := 200
  idkfaClass := 2
  bfgCells := 40
  infight := 202

end Baseline
end DoomPatch
