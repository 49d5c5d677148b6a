import DoomPatch.Flag
import DoomPatch.Text.Case

/-!
# Names of flags

A vocabulary gives names to the bits of one flag word.  Look-ups ignore case and one of the usual openings
`MBF21_`, `MF2_`, `MF_`; listings name each bit once, in the order of the vocabulary.
-/

namespace DoomPatch

/-- A named bit. -/
structure Mnemonic where
  /-- The name, in upper case. -/
  name : String
  /-- The bit. -/
  bit : UInt32

/-- The names of the bits of one flag word. -/
structure Vocabulary where
  /-- What the vocabulary is called in warnings. -/
  name : String
  /-- The named bits. -/
  entries : List Mnemonic

namespace Vocabulary

/-- What may stand in front of a mnemonic, longest first. -/
def openings : List (List Char) := ["MBF21_".toList, "MF2_".toList, "MF_".toList]

/-- Drops the first opening that fits. -/
def dropOpening (cs : List Char) : List Char :=
  match openings.find? fun o => o.isPrefixOf cs with
  | some o => cs.drop o.length
  | none => cs

/-- The bit of a mnemonic. -/
def lookup? (v : Vocabulary) (token : List Char) : Option UInt32 :=
  let key := dropOpening (token.map Text.upperChar)
  (v.entries.find? fun m => m.name.toList == key).map (·.bit)

/-- Collects the names of bits that are set and not named yet. -/
def namesFrom (word : UInt32) (seen : UInt32) : List Mnemonic → List String
  | [] => []
  | m :: rest =>
    if Word.hasAll word m.bit && m.bit != 0 && !Word.hasAll seen m.bit then
      m.name :: namesFrom word (seen ||| m.bit) rest
    else namesFrom word seen rest

/-- The names of the bits of a word, each bit once. -/
def names (v : Vocabulary) (word : UInt32) : List String := namesFrom word 0 v.entries

/-- The names of the classic thing word.  The low bit of the colour change has two names. -/
def thing : Vocabulary where
  name := "bits"
  entries := [
    ⟨"SPECIAL", ThingFlag.special⟩,
    ⟨"SOLID", ThingFlag.solid⟩,
    ⟨"SHOOTABLE", ThingFlag.shootable⟩,
    ⟨"NOSECTOR", ThingFlag.noSector⟩,
    ⟨"NOBLOCKMAP", ThingFlag.noBlockmap⟩,
    ⟨"AMBUSH", ThingFlag.ambush⟩,
    ⟨"JUSTHIT", ThingFlag.justHit⟩,
    ⟨"JUSTATTACKED", ThingFlag.justAttacked⟩,
    ⟨"SPAWNCEILING", ThingFlag.spawnCeiling⟩,
    ⟨"NOGRAVITY", ThingFlag.noGravity⟩,
    ⟨"DROPOFF", ThingFlag.dropOff⟩,
    ⟨"PICKUP", ThingFlag.pickup⟩,
    ⟨"NOCLIP", ThingFlag.noClip⟩,
    ⟨"SLIDE", ThingFlag.slide⟩,
    ⟨"FLOAT", ThingFlag.float⟩,
    ⟨"TELEPORT", ThingFlag.teleport⟩,
    ⟨"MISSILE", ThingFlag.missile⟩,
    ⟨"DROPPED", ThingFlag.dropped⟩,
    ⟨"SHADOW", ThingFlag.shadow⟩,
    ⟨"NOBLOOD", ThingFlag.noBlood⟩,
    ⟨"CORPSE", ThingFlag.corpse⟩,
    ⟨"INFLOAT", ThingFlag.inFloat⟩,
    ⟨"COUNTKILL", ThingFlag.countKill⟩,
    ⟨"COUNTITEM", ThingFlag.countItem⟩,
    ⟨"SKULLFLY", ThingFlag.skullFly⟩,
    ⟨"NOTDMATCH", ThingFlag.notDeathmatch⟩,
    ⟨"TRANSLATION1", ThingFlag.recolourLow⟩,
    ⟨"TRANSLATION", ThingFlag.recolourLow⟩,
    ⟨"TRANSLATION2", ThingFlag.recolourHigh⟩,
    ⟨"TOUCHY", ThingFlag.touchy⟩,
    ⟨"BOUNCES", ThingFlag.bounces⟩,
    ⟨"FRIEND", ThingFlag.friend⟩,
    ⟨"TRANSLUCENT", ThingFlag.translucent⟩]

/-- The names of the extended thing word. -/
def extended : Vocabulary where
  name := "mbf21 bits"
  entries := [
    ⟨"LOGRAV", ExtendedFlag.lowGravity⟩,
    ⟨"SHORTMRANGE", ExtendedFlag.shortRange⟩,
    ⟨"DMGIGNORED", ExtendedFlag.damageIgnored⟩,
    ⟨"NORADIUSDMG", ExtendedFlag.noRadiusDamage⟩,
    ⟨"FORCERADIUSDMG", ExtendedFlag.forceRadiusDamage⟩,
    ⟨"HIGHERMPROB", ExtendedFlag.higherProbability⟩,
    ⟨"RANGEHALF", ExtendedFlag.rangeHalf⟩,
    ⟨"NOTHRESHOLD", ExtendedFlag.noThreshold⟩,
    ⟨"LONGMELEE", ExtendedFlag.longMelee⟩,
    ⟨"BOSS", ExtendedFlag.boss⟩,
    ⟨"MAP07BOSS1", ExtendedFlag.map07Boss1⟩,
    ⟨"MAP07BOSS2", ExtendedFlag.map07Boss2⟩,
    ⟨"E1M8BOSS", ExtendedFlag.e1m8Boss⟩,
    ⟨"E2M8BOSS", ExtendedFlag.e2m8Boss⟩,
    ⟨"E3M8BOSS", ExtendedFlag.e3m8Boss⟩,
    ⟨"E4M6BOSS", ExtendedFlag.e4m6Boss⟩,
    ⟨"E4M8BOSS", ExtendedFlag.e4m8Boss⟩,
    ⟨"RIP", ExtendedFlag.rip⟩,
    ⟨"FULLVOLSOUNDS", ExtendedFlag.fullVolume⟩]

/-- The names of the weapon word. -/
def weapon : Vocabulary where
  name := "weapon mbf21 bits"
  entries := [
    ⟨"NOTHRUST", WeaponFlag.noThrust⟩,
    ⟨"SILENT", WeaponFlag.silent⟩,
    ⟨"NOAUTOFIRE", WeaponFlag.noAutoFire⟩,
    ⟨"FLEEMELEE", WeaponFlag.fleeMelee⟩,
    ⟨"AUTOSWITCHFROM", WeaponFlag.autoSwitchFrom⟩,
    ⟨"NOAUTOSWITCHTO", WeaponFlag.noAutoSwitchTo⟩]

end Vocabulary
end DoomPatch
