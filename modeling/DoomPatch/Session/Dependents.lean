import DoomPatch.Field.Misc
import DoomPatch.Monster
import DoomPatch.Session

/-!
# What a change affects

The definition of a thing draws on more than its own record: on the frames of its animations, on the names
of their sprites, on ammunition and on global values.  A change to any of these makes the things and weapons
that depend on it modified too.  Only records that read as before are added, so one round suffices.
-/

namespace DoomPatch
namespace Session

/-- The player. -/
def player : Int := 0

/-- The backpack, which holds every type of ammunition. -/
def backpack : Int := 71

/-- The largest gun. -/
def bfg : Int := 6

/-- The small and the large pickup of an ammunition type. -/
def ammoPickups (ammo : Int) : List Int :=
  match ammo with
  | 0 => [63, 64]
  | 1 => [69, 70]
  | 2 => [67, 68]
  | 3 => [65, 66]
  | _ => []

/-- The things that depend on an ammunition type. -/
def ammoUsers (ammo : Int) : List Int := player :: backpack :: ammoPickups ammo

/-- The things that a global value configures. -/
def miscThings : MiscField → List Int
  | .initialHealth => [player]
  | .initialBullets => [player]
  | .maxHealth => [45]
  | .maxArmor => [46]
  | .greenClass => [43]
  | .blueClass => [44]
  | .maxSoulsphere => [55]
  | .soulsphereHealth => [55]
  | .megasphereHealth => [62]
  | _ => []

/-- The things whose animations satisfy a test on their frames. -/
def thingsWith (s : Session) (uses : List Int → Bool) : List Int :=
  s.thingIds.filter fun id => (s.thing? id).any fun t => uses (s.thingChains t)

/-- The weapons whose animations satisfy a test on their frames. -/
def weaponsWith (s : Session) (uses : List Int → Bool) : List Int :=
  weaponIds.filter fun id => (s.weapon? id).any fun w => uses (s.weaponChains w)

/-- Makes the things and weapons modified whose animations satisfy a test. -/
def touchUsers (s : Session) (uses : List Int → Bool) : Session :=
  (s.touchThings (s.thingsWith uses)).touchWeapons (s.weaponsWith uses)

/-- Makes the users of a frame modified. -/
def touchFrameUsers (s : Session) (frame : Int) : Session := s.touchUsers fun ids => ids.contains frame

/-- Makes the users of a sprite modified. -/
def touchSpriteUsers (s : Session) (sprite : Int) : Session :=
  s.touchUsers fun ids => ids.any fun id => (s.frame? id).any fun f => f.sprite == sprite

/-- The things that count as monsters by their record alone. -/
def monsters (s : Session) : List Int :=
  s.thingIds.filter fun id => (s.thing? id).any fun t => Monster.judge t none

/-- Makes the things modified that a global value affects.  The player's hit points and the cost of a shot of
the largest gun are kept in records too. -/
def touchMiscUsers (s : Session) (field : MiscField) (value : Int) : Session :=
  let s := s.touchThings (miscThings field)
  match field with
  | .initialHealth =>
    match s.openThing player with
    | .ok t => s.putThing player { t with health := value }
    | .error _ => s
  | .bfgCells =>
    match s.openWeapon bfg with
    | .ok w => s.putWeapon bfg { w with perShot := value }
    | .error _ => s
  | .infight => if value = Misc.infightOn then s.touchThings s.monsters else s
  | _ => s

end Session
end DoomPatch
