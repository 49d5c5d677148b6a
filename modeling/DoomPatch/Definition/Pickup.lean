import DoomPatch.Definition.Block
import DoomPatch.Definition.View

/-!
# Pickups

What a thing gives when it is picked up is decided by the sprite it first shows, as the unpatched game names
it.  The amounts come from the ammunition types and the global values.
-/

namespace DoomPatch

/-- What a pickup gives. -/
inductive Benefit where
  /-- Something fixed. -/
  | fixed (text : String)
  /-- A multiple of the clip of an ammunition type. -/
  | ammo (type factor : Int)
  /-- A weapon with two clips. -/
  | weapon (name : String) (type : Int)
  /-- Green armour. -/
  | greenArmour
  /-- Blue armour. -/
  | blueArmour
  /-- A little health. -/
  | healthBonus
  /-- A little armour. -/
  | armourBonus
  /-- Much health. -/
  | soulsphere
  /-- Much health and armour. -/
  | megasphere
  /-- Twice the room for ammunition, and a clip of each type. -/
  | backpack
deriving DecidableEq

namespace Benefit

/-- An amount of an ammunition type. -/
def ammoText (v : View) (type factor : Int) : String :=
  let a := (v.session.ammo? type).getD {}
  s!"{a.name}({Word.mul a.per factor})"

/-- The text of a benefit. -/
def text (v : View) : Benefit → String
  | fixed text => text
  | ammo type factor => ammoText v type factor
  | weapon name type => s!"{name}," ++ ammoText v type 2
  | greenArmour => s!"GREEN_ARMOUR({Word.mul v.session.misc.greenClass 100})"
  | blueArmour => s!"BLUE_ARMOUR({Word.mul v.session.misc.blueClass 100})"
  | healthBonus => s!"HEALTH(1:{v.session.misc.maxHealth})"
  | armourBonus => s!"GREEN_ARMOUR(1:{v.session.misc.maxArmor})"
  | soulsphere => s!"HEALTH({v.session.misc.soulsphereHealth}:{v.session.misc.maxSoulsphere})"
  | megasphere =>
    s!"HEALTH({v.session.misc.megasphereHealth}:{v.session.misc.megasphereHealth}),BLUE_ARMOUR(200:200)"
  | backpack =>
    Definition.list
      (v.ammoTypes.map (fun a => s!"{a.name}.LIMIT({Word.mul a.max 2})")
        ++ v.ammoTypes.map (fun a => s!"{a.name}({a.per})"))

end Benefit

/-- A kind of pickup. -/
structure Pickup where
  /-- The sprite that shows it. -/
  sprite : String
  /-- What it gives. -/
  benefit : Benefit
  /-- The message. -/
  message : String
  /-- The sound. -/
  sound : String
  /-- What else it does. -/
  effect : Option String := none

namespace Pickup

/-- The kinds of pickups. -/
def all : List Pickup := [
  ⟨"ARM1", .greenArmour, "GotArmour", "ITEMUP", none⟩,
  ⟨"ARM2", .blueArmour, "GotMegaArmour", "ITEMUP", none⟩,
  ⟨"BON1", .healthBonus, "GotHealthPotion", "ITEMUP", none⟩,
  ⟨"BON2", .armourBonus, "GotArmourHelmet", "ITEMUP", none⟩,
  ⟨"SOUL", .soulsphere, "GotSoul", "GETPOW", none⟩,
  ⟨"MEGA", .megasphere, "GotMega", "GETPOW", none⟩,
  ⟨"STIM", .fixed "HEALTH(10:100)", "GotStim", "ITEMUP", none⟩,
  ⟨"MEDI", .fixed "HEALTH(25:100)", "GotMedi", "ITEMUP", none⟩,
  ⟨"BKEY", .fixed "KEY_BLUECARD", "GotBlueCard", "ITEMUP", none⟩,
  ⟨"YKEY", .fixed "KEY_YELLOWCARD", "GotYellowCard", "ITEMUP", none⟩,
  ⟨"RKEY", .fixed "KEY_REDCARD", "GotRedCard", "ITEMUP", none⟩,
  ⟨"BSKU", .fixed "KEY_BLUESKULL", "GotBlueSkull", "ITEMUP", none⟩,
  ⟨"YSKU", .fixed "KEY_YELLOWSKULL", "GotYellowSkull", "ITEMUP", none⟩,
  ⟨"RSKU", .fixed "KEY_REDSKULL", "GotRedSkull", "ITEMUP", none⟩,
  ⟨"PINV", .fixed "POWERUP_INVULNERABLE(30:30)", "GotInvulner", "GETPOW", none⟩,
  ⟨"PINS", .fixed "POWERUP_PARTINVIS(100:100)", "GotInvis", "GETPOW", none⟩,
  ⟨"SUIT", .fixed "POWERUP_ACIDSUIT(60:60)", "GotSuit", "GETPOW", none⟩,
  ⟨"PMAP", .fixed "POWERUP_AUTOMAP", "GotMap", "GETPOW", none⟩,
  ⟨"PVIS", .fixed "POWERUP_LIGHTGOGGLES(120:120)", "GotVisor", "GETPOW", none⟩,
  ⟨"PSTR", .fixed "POWERUP_BERSERK(60:60),HEALTH(100:100)", "GotBerserk", "GETPOW",
    some "SWITCH_WEAPON(FIST)"⟩,
  ⟨"CLIP", .ammo 0 1, "GotClip", "ITEMUP", none⟩,
  ⟨"AMMO", .ammo 0 5, "GotClipBox", "ITEMUP", none⟩,
  ⟨"ROCK", .ammo 3 1, "GotRocket", "ITEMUP", none⟩,
  ⟨"BROK", .ammo 3 5, "GotRocketBox", "ITEMUP", none⟩,
  ⟨"CELL", .ammo 2 1, "GotCell", "ITEMUP", none⟩,
  ⟨"CELP", .ammo 2 5, "GotCellPack", "ITEMUP", none⟩,
  ⟨"SHEL", .ammo 1 1, "GotShells", "ITEMUP", none⟩,
  ⟨"SBOX", .ammo 1 5, "GotShellBox", "ITEMUP", none⟩,
  ⟨"BPAK", .backpack, "GotBackpack", "ITEMUP", none⟩,
  ⟨"BFUG", .weapon "BFG_9000" 2, "GotBFG", "WPNUP", none⟩,
  ⟨"MGUN", .weapon "CHAINGUN" 0, "GotChainGun", "WPNUP", none⟩,
  ⟨"CSAW", .fixed "CHAINSAW", "GotChainSaw", "WPNUP", none⟩,
  ⟨"LAUN", .weapon "ROCKET_LAUNCHER" 3, "GotLauncher", "WPNUP", none⟩,
  ⟨"PLAS", .weapon "PLASMA_RIFLE" 2, "GotPlasma", "WPNUP", none⟩,
  ⟨"SHOT", .weapon "SHOTGUN" 1, "GotShotgun", "WPNUP", none⟩,
  ⟨"SGN2", .weapon "SUPER_SHOTGUN" 1, "GotDoubleShotgun", "WPNUP", none⟩]

/-- The pickup that a thing is. -/
def ofThing? (v : View) (t : Thing) : Option Pickup :=
  if t.has ThingFlag.special then
    ((v.reel.frame? t.spawn).bind fun f => Baseline.sprite? f.sprite).bind fun sprite =>
      all.find? (·.sprite == sprite)
  else none

/-- The clauses of a pickup. -/
def clauses (v : View) (p : Pickup) : List Clause :=
  [⟨"PICKUP_BENEFIT", p.benefit.text v⟩]
    ++ Definition.clauseFor "PICKUP_EFFECT" id p.effect
    ++ [⟨"PICKUP_SOUND", Definition.quote p.sound⟩, ⟨"PICKUP_MESSAGE", p.message⟩]

end Pickup
end DoomPatch
