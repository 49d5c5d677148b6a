import DoomPatch.Text.Blank
import DoomPatch.Text.Case
import DoomPatch.Word

/-!
# Code pointers

A frame may run a code pointer.  The catalog says, for each mnemonic, which action of the definition
language it becomes, what it makes a thing do, and which attacks it fires.

* `normalize` — the form of a mnemonic that look-ups compare: trimmed, in upper case, without `A_`.
* `lookup?` — the catalog entry of a mnemonic.
-/

namespace DoomPatch

/-! ### What a code pointer does -/

namespace Behaviour

/-- Explodes. -/
def explode : UInt32 := 0x0001

/-- Explodes with the damage of the thing. -/
def detonate : UInt32 := 0x0002

/-- Looks for a target. -/
def look : UInt32 := 0x0004

/-- Moves towards the target. -/
def chase : UInt32 := 0x0008

/-- Stops blocking, as the dead do. -/
def fall : UInt32 := 0x0010

/-- Raises the dead. -/
def raise : UInt32 := 0x0020

/-- Opens doors with its death. -/
def keenDie : UInt32 := 0x0040

/-- Triggers the end of a level. -/
def bossDeath : UInt32 := 0x0080

/-- Spits cubes. -/
def brainSpit : UInt32 := 0x0100

/-- Scratches with values of the frame. -/
def meleeScratch : UInt32 := 0x0200

/-- Fires a projectile. -/
def monsterProjectile : UInt32 := 0x0400

/-- Fires a projectile from a weapon. -/
def weaponProjectile : UInt32 := 0x0800

/-- Belongs to weapons. -/
def weapon : UInt32 := 0x1000

end Behaviour

/-- The attacks a code pointer fires, by slot; empty for none. -/
structure Attacks where
  /-- The far attack. -/
  ranged : String := ""
  /-- The close attack. -/
  close : String := ""
  /-- The spare attack. -/
  spare : String := ""
deriving DecidableEq, Inhabited

/-- Whether no slot is filled. -/
def Attacks.isNone (a : Attacks) : Bool := a.ranged == "" && a.close == "" && a.spare == ""

/-- A catalog entry. -/
structure CodePointer where
  /-- The mnemonic without `A_`. -/
  mnemonic : String
  /-- The action of the definition language. -/
  ddf : String
  /-- What it does. -/
  flags : UInt32 := 0
  /-- The attacks it fires. -/
  attacks : Attacks := {}
deriving DecidableEq, Inhabited

namespace CodePointer

/-- Whether the code pointer has all the behaviours. -/
def has (p : CodePointer) (behaviour : UInt32) : Bool := Word.hasAll p.flags behaviour

/-- The catalog in order. -/
def catalog : List CodePointer := [
  { mnemonic := "Light0", ddf := "LIGHT0", flags := Behaviour.weapon },
  { mnemonic := "Light1", ddf := "LIGHT1", flags := Behaviour.weapon },
  { mnemonic := "Light2", ddf := "LIGHT2", flags := Behaviour.weapon },
  { mnemonic := "WeaponReady", ddf := "READY", flags := Behaviour.weapon },
  { mnemonic := "Lower", ddf := "LOWER", flags := Behaviour.weapon },
  { mnemonic := "Raise", ddf := "RAISE", flags := Behaviour.weapon },
  { mnemonic := "ReFire", ddf := "REFIRE", flags := Behaviour.weapon },
  { mnemonic := "GunFlash", ddf := "FLASH", flags := Behaviour.weapon },
  { mnemonic := "CheckReload", ddf := "CHECKRELOAD", flags := Behaviour.weapon },
  { mnemonic := "OpenShotgun2", ddf := "PLAYSOUND(DBOPN)", flags := Behaviour.weapon },
  { mnemonic := "LoadShotgun2", ddf := "PLAYSOUND(DBLOAD)", flags := Behaviour.weapon },
  { mnemonic := "CloseShotgun2", ddf := "PLAYSOUND(DBCLS)", flags := Behaviour.weapon },
  { mnemonic := "BFGsound", ddf := "PLAYSOUND(BFG)", flags := Behaviour.weapon },
  { mnemonic := "Punch", ddf := "SHOOT", flags := Behaviour.weapon,
    attacks := { ranged := "PLAYER_PUNCH" } },
  { mnemonic := "Saw", ddf := "SHOOT", flags := Behaviour.weapon, attacks := { ranged := "PLAYER_SAW" } },
  { mnemonic := "FirePistol", ddf := "SHOOT", flags := Behaviour.weapon,
    attacks := { ranged := "PLAYER_PISTOL" } },
  { mnemonic := "FireShotgun", ddf := "SHOOT", flags := Behaviour.weapon,
    attacks := { ranged := "PLAYER_SHOTGUN" } },
  { mnemonic := "FireShotgun2", ddf := "SHOOT", flags := Behaviour.weapon,
    attacks := { ranged := "PLAYER_SHOTGUN2" } },
  { mnemonic := "FireCGun", ddf := "SHOOT", flags := Behaviour.weapon,
    attacks := { ranged := "PLAYER_CHAINGUN" } },
  { mnemonic := "FireMissile", ddf := "SHOOT", flags := Behaviour.weapon,
    attacks := { ranged := "PLAYER_MISSILE" } },
  { mnemonic := "FirePlasma", ddf := "SHOOT", flags := Behaviour.weapon,
    attacks := { ranged := "PLAYER_PLASMA" } },
  { mnemonic := "FireBFG", ddf := "SHOOT", flags := Behaviour.weapon,
    attacks := { ranged := "PLAYER_BFG9000" } },
  { mnemonic := "FireOldBFG", ddf := "SHOOT", flags := Behaviour.weapon,
    attacks := { ranged := "PLAYER_PLASMA" } },
  { mnemonic := "Look", ddf := "LOOKOUT", flags := Behaviour.look },
  { mnemonic := "Chase", ddf := "CHASE", flags := Behaviour.chase },
  { mnemonic := "FaceTarget", ddf := "FACETARGET" },
  { mnemonic := "Pain", ddf := "MAKEPAINSOUND" },
  { mnemonic := "Scream", ddf := "MAKEDEATHSOUND" },
  { mnemonic := "XScream", ddf := "MAKEOVERKILLSOUND" },
  { mnemonic := "PlayerScream", ddf := "PLAYER_SCREAM" },
  { mnemonic := "Fall", ddf := "MAKEDEAD", flags := Behaviour.fall },
  { mnemonic := "Explode", ddf := "EXPLOSIONDAMAGE", flags := Behaviour.explode },
  { mnemonic := "BFGSpray", ddf := "SPARE_ATTACK", attacks := { spare := "BFG9000_SPRAY" } },
  { mnemonic := "PosAttack", ddf := "RANGE_ATTACK", attacks := { ranged := "FORMER_HUMAN_PISTOL" } },
  { mnemonic := "SPosAttack", ddf := "RANGE_ATTACK", attacks := { ranged := "FORMER_HUMAN_SHOTGUN" } },
  { mnemonic := "CPosAttack", ddf := "RANGE_ATTACK", attacks := { ranged := "FORMER_HUMAN_CHAINGUN" } },
  { mnemonic := "CPosRefire", ddf := "REFIRE_CHECK" },
  { mnemonic := "SpidRefire", ddf := "REFIRE_CHECK" },
  { mnemonic := "TroopAttack", ddf := "COMBOATTACK", flags := Behaviour.monsterProjectile,
    attacks := { ranged := "IMP_FIREBALL", close := "IMP_CLAW" } },
  { mnemonic := "SargAttack", ddf := "CLOSE_ATTACK", attacks := { close := "DEMON_CLAW" } },
  { mnemonic := "HeadAttack", ddf := "COMBOATTACK", flags := Behaviour.monsterProjectile,
    attacks := { ranged := "CACO_FIREBALL", close := "CACO_BITE" } },
  { mnemonic := "BruisAttack", ddf := "COMBOATTACK", flags := Behaviour.monsterProjectile,
    attacks := { ranged := "BARON_FIREBALL", close := "BARON_CLAW" } },
  { mnemonic := "SkullAttack", ddf := "RANGE_ATTACK", attacks := { ranged := "SKULL_ASSAULT" } },
  { mnemonic := "BspiAttack", ddf := "RANGE_ATTACK", flags := Behaviour.monsterProjectile,
    attacks := { ranged := "ARACHNOTRON_PLASMA" } },
  { mnemonic := "CyberAttack", ddf := "RANGE_ATTACK", flags := Behaviour.monsterProjectile,
    attacks := { ranged := "CYBERDEMON_MISSILE" } },
  { mnemonic := "PainAttack", ddf := "RANGE_ATTACK", attacks := { ranged := "ELEMENTAL_SPAWNER" } },
  { mnemonic := "PainDie", ddf := "SPARE_ATTACK", flags := Behaviour.fall,
    attacks := { spare := "ELEMENTAL_DEATHSPAWN" } },
  { mnemonic := "SkelMissile", ddf := "RANGE_ATTACK", flags := Behaviour.monsterProjectile,
    attacks := { ranged := "REVENANT_MISSILE" } },
  { mnemonic := "SkelWhoosh", ddf := "FACETARGET" },
  { mnemonic := "SkelFist", ddf := "CLOSE_ATTACK", attacks := { close := "REVENANT_CLOSECOMBAT" } },
  { mnemonic := "Tracer", ddf := "RANDOM_TRACER" },
  { mnemonic := "FatRaise", ddf := "FACETARGET" },
  { mnemonic := "FatAttack1", ddf := "RANGE_ATTACK", flags := Behaviour.monsterProjectile,
    attacks := { ranged := "MANCUBUS_FIREBALL" } },
  { mnemonic := "FatAttack2", ddf := "RANGE_ATTACK", flags := Behaviour.monsterProjectile,
    attacks := { ranged := "MANCUBUS_FIREBALL" } },
  { mnemonic := "FatAttack3", ddf := "RANGE_ATTACK", flags := Behaviour.monsterProjectile,
    attacks := { ranged := "MANCUBUS_FIREBALL" } },
  { mnemonic := "VileChase", ddf := "RESCHASE", flags := Behaviour.chase ||| Behaviour.raise },
  { mnemonic := "VileStart", ddf := "PLAYSOUND(VILATK)" },
  { mnemonic := "VileTarget", ddf := "RANGE_ATTACK", attacks := { ranged := "ARCHVILE_FIRE" } },
  { mnemonic := "VileAttack", ddf := "EFFECTTRACKER" },
  { mnemonic := "StartFire", ddf := "TRACKERSTART" },
  { mnemonic := "Fire", ddf := "TRACKERFOLLOW" },
  { mnemonic := "FireCrackle", ddf := "TRACKERACTIVE" },
  { mnemonic := "Hoof", ddf := "CHASE", flags := Behaviour.chase },
  { mnemonic := "Metal", ddf := "CHASE", flags := Behaviour.chase },
  { mnemonic := "BabyMetal", ddf := "CHASE", flags := Behaviour.chase },
  { mnemonic := "BossDeath", ddf := "NOTHING", flags := Behaviour.bossDeath },
  { mnemonic := "KeenDie", ddf := "KEEN_DIE", flags := Behaviour.keenDie ||| Behaviour.fall },
  { mnemonic := "BrainPain", ddf := "BRAINPAIN" },
  { mnemonic := "BrainScream", ddf := "BRAINSCREAM" },
  { mnemonic := "BrainDie", ddf := "BRAINDIE" },
  { mnemonic := "BrainAwake", ddf := "NOTHING" },
  { mnemonic := "BrainSpit", ddf := "BRAINSPIT", flags := Behaviour.brainSpit,
    attacks := { ranged := "BRAIN_CUBE" } },
  { mnemonic := "SpawnSound", ddf := "MAKEACTIVESOUND" },
  { mnemonic := "SpawnFly", ddf := "CUBETRACER" },
  { mnemonic := "BrainExplode", ddf := "BRAINMISSILEEXPLODE" },
  { mnemonic := "Detonate", ddf := "EXPLOSIONDAMAGE", flags := Behaviour.detonate },
  { mnemonic := "Mushroom", ddf := "MUSHROOM", flags := Behaviour.explode },
  { mnemonic := "Die", ddf := "DIE" },
  { mnemonic := "Spawn", ddf := "SPAWN" },
  { mnemonic := "Turn", ddf := "TURN" },
  { mnemonic := "Face", ddf := "FACE" },
  { mnemonic := "Scratch", ddf := "CLOSE_ATTACK", flags := Behaviour.meleeScratch },
  { mnemonic := "PlaySound", ddf := "PLAYSOUND" },
  { mnemonic := "RandomJump", ddf := "RANDOM_JUMP" },
  { mnemonic := "LineEffect", ddf := "NOTHING" },
  { mnemonic := "Stop", ddf := "STOP" },
  { mnemonic := "SpawnObject", ddf := "SPAWN" },
  { mnemonic := "MonsterProjectile", ddf := "RANGE_ATTACK", flags := Behaviour.monsterProjectile },
  { mnemonic := "MonsterBulletAttack", ddf := "RANGE_ATTACK" },
  { mnemonic := "MonsterMeleeAttack", ddf := "CLOSE_ATTACK", flags := Behaviour.meleeScratch },
  { mnemonic := "RadiusDamage", ddf := "EXPLOSIONDAMAGE", flags := Behaviour.explode },
  { mnemonic := "NoiseAlert", ddf := "NOISE_ALERT" },
  { mnemonic := "HealChase", ddf := "RESCHASE", flags := Behaviour.chase ||| Behaviour.raise },
  { mnemonic := "SeekTracer", ddf := "HOMING_TRACER" },
  { mnemonic := "FindTracer", ddf := "NOTHING" },
  { mnemonic := "ClearTracer", ddf := "NOTHING" },
  { mnemonic := "JumpIfHealthBelow", ddf := "JUMP_IF_HEALTH_BELOW" },
  { mnemonic := "JumpIfTargetInSight", ddf := "JUMP_IF_TARGET_IN_SIGHT" },
  { mnemonic := "JumpIfTargetCloser", ddf := "JUMP_IF_TARGET_CLOSER" },
  { mnemonic := "JumpIfTracerInSight", ddf := "NOTHING" },
  { mnemonic := "JumpIfTracerCloser", ddf := "NOTHING" },
  { mnemonic := "JumpIfFlagsSet", ddf := "NOTHING" },
  { mnemonic := "AddFlags", ddf := "NOTHING" },
  { mnemonic := "RemoveFlags", ddf := "NOTHING" },
  { mnemonic := "WeaponProjectile", ddf := "SHOOT", flags := Behaviour.weapon ||| Behaviour.weaponProjectile },
  { mnemonic := "WeaponBulletAttack", ddf := "SHOOT", flags := Behaviour.weapon },
  { mnemonic := "WeaponMeleeAttack", ddf := "SHOOT", flags := Behaviour.weapon },
  { mnemonic := "WeaponSound", ddf := "PLAYSOUND", flags := Behaviour.weapon },
  { mnemonic := "WeaponAlert", ddf := "NOISE_ALERT", flags := Behaviour.weapon },
  { mnemonic := "WeaponJump", ddf := "JUMP", flags := Behaviour.weapon },
  { mnemonic := "ConsumeAmmo", ddf := "NOTHING", flags := Behaviour.weapon },
  { mnemonic := "CheckAmmo", ddf := "NOTHING", flags := Behaviour.weapon },
  { mnemonic := "RefireTo", ddf := "REFIRE_TO", flags := Behaviour.weapon },
  { mnemonic := "GunFlashTo", ddf := "FLASH", flags := Behaviour.weapon }]

/-- The form of a mnemonic that look-ups compare. -/
def normalize (mnemonic : String) : String :=
  match (Text.trimChars mnemonic.toList).map Text.upperChar with
  | 'A' :: '_' :: rest => String.ofList rest
  | cs => String.ofList cs

/-- The catalog with the form that look-ups compare. -/
def index : List (String × CodePointer) := catalog.map fun p => (Text.upper p.mnemonic, p)

/-- The catalog entry of a mnemonic. -/
def lookup? (mnemonic : String) : Option CodePointer :=
  let key := normalize mnemonic
  (index.find? fun e => e.1 == key).map (·.2)

/-- The mnemonic as a frame stores it. -/
def action (p : CodePointer) : String := "A_" ++ p.mnemonic

/-- The code pointer of a stored action; the empty action has none. -/
def ofAction? (action : String) : Option CodePointer := if action = "" then none else lookup? action

end CodePointer
end DoomPatch
