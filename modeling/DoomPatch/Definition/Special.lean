import DoomPatch.Definition.View
import DoomPatch.Monster

/-!
# The specials of a thing

The flag word of a thing, its extended flag word and what the game knows about its type together make one
list of specials in its definition, each named once.
-/

namespace DoomPatch
namespace Special

/-- The specials of the flag word.  The other flags are states of play or have clauses of their own. -/
def ofFlags : List (UInt32 × String) := [
  (ThingFlag.special, "SPECIAL"),
  (ThingFlag.solid, "SOLID"),
  (ThingFlag.shootable, "SHOOTABLE"),
  (ThingFlag.noSector, "NOSECTOR"),
  (ThingFlag.noBlockmap, "NOBLOCKMAP"),
  (ThingFlag.ambush, "AMBUSH"),
  (ThingFlag.spawnCeiling, "SPAWNCEILING"),
  (ThingFlag.noGravity, "NOGRAVITY"),
  (ThingFlag.dropOff, "DROPOFF"),
  (ThingFlag.pickup, "PICKUP"),
  (ThingFlag.noClip, "NOCLIP"),
  (ThingFlag.slide, "SLIDER"),
  (ThingFlag.float, "FLOAT"),
  (ThingFlag.teleport, "TELEPORT"),
  (ThingFlag.missile, "MISSILE"),
  (ThingFlag.dropped, "DROPPED"),
  (ThingFlag.shadow, "FUZZY"),
  (ThingFlag.noBlood, "DAMAGESMOKE"),
  (ThingFlag.corpse, "CORPSE"),
  (ThingFlag.countKill, "COUNT_AS_KILL"),
  (ThingFlag.countItem, "COUNT_AS_ITEM"),
  (ThingFlag.notDeathmatch, "NODEATHMATCH"),
  (ThingFlag.touchy, "TOUCHY"),
  (ThingFlag.bounces, "BOUNCE"),
  (ThingFlag.friend, "ULTRA_LOYAL")]

/-- The specials of the extended flag word.  The flags of bosses become triggers instead. -/
def ofExtendedFlags : List (UInt32 × String) := [
  (ExtendedFlag.lowGravity, "LOGRAV"),
  (ExtendedFlag.shortRange, "SHORTMRANGE"),
  (ExtendedFlag.damageIgnored, "NEVERTARGETED"),
  (ExtendedFlag.noRadiusDamage, "EXPLODE_IMMUNE"),
  (ExtendedFlag.forceRadiusDamage, "FORCERADIUSDMG"),
  (ExtendedFlag.higherProbability, "HIGHERMPROB"),
  (ExtendedFlag.rangeHalf, "TRIGGER_HAPPY"),
  (ExtendedFlag.noThreshold, "NOTHRESHOLD"),
  (ExtendedFlag.longMelee, "LONGMELEE"),
  (ExtendedFlag.boss, "BOSSMAN"),
  (ExtendedFlag.rip, "TUNNEL"),
  (ExtendedFlag.fullVolume, "ALWAYS_LOUD")]

/-- The specials of the flags of a weapon. -/
def ofWeaponFlags : List (UInt32 × String) := [
  (WeaponFlag.noThrust, "NO_THRUST"),
  (WeaponFlag.silent, "SILENT_TO_MONSTERS"),
  (WeaponFlag.noAutoFire, "NO_AUTO_FIRE"),
  (WeaponFlag.fleeMelee, "DANGEROUS"),
  (WeaponFlag.autoSwitchFrom, "SWITCH_AWAY"),
  (WeaponFlag.noAutoSwitchTo, "NO_SWITCH_TO")]

/-- The names of a word in the order of a table. -/
def names (table : List (UInt32 × String)) (word : UInt32) : List String :=
  (table.filter fun e => Word.hasAll word e.1).map (·.2)

/-- The specials that belong to the type of a thing whatever its flags. -/
def ofIdentity (id : Int) : List String :=
  match id with
  | 5 | 18 => ["TRIGGER_HAPPY"]
  | 19 | 21 => ["TRIGGER_HAPPY", "EXPLODE_IMMUNE", "BOSSMAN"]
  | 25 | 30 => ["NEVERTARGETED"]
  | _ => []

/-- The flag word under the rules of old patches: negative mass hangs from the ceiling, and what bounces can
be shot. -/
def adjusted (t : Thing) : UInt32 :=
  let word := if t.mass < 0 then t.flags ||| ThingFlag.spawnCeiling ||| ThingFlag.noGravity else t.flags
  if Word.hasAll word ThingFlag.bounces then word ||| ThingFlag.shootable else word

/-- Whether a thing counts as a monster, given its animations. -/
def isMonster (v : View) (t : Thing) : Bool := Monster.judge t (some (Monster.conduct v.reel t))

/-- The specials of being a monster. -/
def ofMonster (v : View) (t : Thing) : List String :=
  if isMonster v t then "MONSTER" :: (if v.session.misc.infighting then ["DISLOYAL"] else []) else []

/-- The names in order, each once. -/
def distinct (names : List String) : List String :=
  names.foldl (fun seen name => if seen.contains name then seen else seen ++ [name]) []

/-- All specials of a thing. -/
def ofThing (v : View) (id : Int) (t : Thing) : List String :=
  distinct (names ofFlags (adjusted t) ++ ofMonster v t ++ ofIdentity id ++ names ofExtendedFlags t.mbf21)

/-- The palette of a flag word, if it asks for another one. -/
def palette? (word : UInt32) : Option String :=
  let bits := word &&& ThingFlag.recolour
  if bits = ThingFlag.recolourLow then some "PLAYER_DARK"
  else if bits = ThingFlag.recolourHigh then some "PLAYER_BROWN"
  else if bits = ThingFlag.recolour then some "PLAYER_RED"
  else none

end Special
end DoomPatch
