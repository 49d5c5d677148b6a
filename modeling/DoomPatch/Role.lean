/-!
# Roles

A role names one animation of a thing, a weapon or an attack.  A definition writes it by its label.
-/

namespace DoomPatch

/-- What an animation is for. -/
inductive Role where
  /-- Standing by, or flying for a projectile. -/
  | spawn
  /-- Moving towards a target. -/
  | see
  /-- Attacking at close range. -/
  | melee
  /-- Attacking from afar. -/
  | missile
  /-- Being hurt. -/
  | pain
  /-- Dying, or hitting for a projectile. -/
  | death
  /-- Being blown apart. -/
  | xdeath
  /-- Rising from the dead. -/
  | raise
  /-- Raising a weapon. -/
  | up
  /-- Lowering a weapon. -/
  | down
  /-- Holding a weapon. -/
  | ready
  /-- Firing a weapon. -/
  | attack
  /-- The flash of a weapon. -/
  | flash
  /-- A number without a role; all of these share one label. -/
  | other (number : Int)
deriving DecidableEq, Repr

namespace Role

/-- The label of a role in a definition. -/
def tag : Role → String
  | spawn => "IDLE"
  | see => "CHASE"
  | melee => "MELEE"
  | missile => "MISSILE"
  | pain => "PAIN"
  | death => "DEATH"
  | xdeath => "OVERKILL"
  | raise => "RESURRECT"
  | up => "UP"
  | down => "DOWN"
  | ready => "READY"
  | attack => "ATTACK"
  | flash => "FLASH"
  | other _ => "UNKNOWN"

/-- The roles that have a label of their own, in the order of their numbers. -/
def named : List Role :=
  [spawn, see, melee, missile, pain, death, xdeath, raise, up, down, ready, attack, flash]

/-- The role of a number. -/
def ofNumber (n : Int) : Role :=
  if n < 0 then other n else (named[n.toNat]?).getD (other n)

/-- The number of a role. -/
def number : Role → Int
  | spawn => 0
  | see => 1
  | melee => 2
  | missile => 3
  | pain => 4
  | death => 5
  | xdeath => 6
  | raise => 7
  | up => 8
  | down => 9
  | ready => 10
  | attack => 11
  | flash => 12
  | other n => n

/-- The roles of a thing, most important first. -/
def ofThing : List Role := [spawn, see, melee, missile, pain, death, xdeath, raise]

/-- The roles of a weapon, most important first. -/
def ofWeapon : List Role := [up, down, ready, attack, flash]

/-- The roles of an attack, most important first. -/
def ofAttack : List Role := [spawn, death]

end Role
end DoomPatch
