import DoomPatch.Word

/-!
# Flag words

The bits of the four flag words: the classic thing word, its extension, the weapon word, and the flags that
no word carries because they follow from what a thing is.
-/

namespace DoomPatch

/-! ### The classic thing word -/

namespace ThingFlag

/-- Can be picked up. -/
def special : UInt32 := 0x00000001

/-- Blocks movement. -/
def solid : UInt32 := 0x00000002

/-- Can be hit. -/
def shootable : UInt32 := 0x00000004

/-- Not linked into sectors, so never drawn. -/
def noSector : UInt32 := 0x00000008

/-- Not linked into the block map. -/
def noBlockmap : UInt32 := 0x00000010

/-- Waits to be seen. -/
def ambush : UInt32 := 0x00000020

/-- Was just hit. -/
def justHit : UInt32 := 0x00000040

/-- Has just attacked. -/
def justAttacked : UInt32 := 0x00000080

/-- Hangs from the ceiling. -/
def spawnCeiling : UInt32 := 0x00000100

/-- Does not fall. -/
def noGravity : UInt32 := 0x00000200

/-- May step over ledges. -/
def dropOff : UInt32 := 0x00000400

/-- Picks items up. -/
def pickup : UInt32 := 0x00000800

/-- Passes through walls. -/
def noClip : UInt32 := 0x00001000

/-- Slides along walls. -/
def slide : UInt32 := 0x00002000

/-- Flies. -/
def float : UInt32 := 0x00004000

/-- Crosses lines without triggering them. -/
def teleport : UInt32 := 0x00008000

/-- Is a projectile. -/
def missile : UInt32 := 0x00010000

/-- Was dropped by a monster. -/
def dropped : UInt32 := 0x00020000

/-- Is drawn blurred. -/
def shadow : UInt32 := 0x00040000

/-- Bleeds smoke. -/
def noBlood : UInt32 := 0x00080000

/-- Is dead. -/
def corpse : UInt32 := 0x00100000

/-- Is changing its height. -/
def inFloat : UInt32 := 0x00200000

/-- Counts as a kill. -/
def countKill : UInt32 := 0x00400000

/-- Counts as an item. -/
def countItem : UInt32 := 0x00800000

/-- Is charging. -/
def skullFly : UInt32 := 0x01000000

/-- Is left out of deathmatch. -/
def notDeathmatch : UInt32 := 0x02000000

/-- The low bit of the colour change. -/
def recolourLow : UInt32 := 0x04000000

/-- The high bit of the colour change. -/
def recolourHigh : UInt32 := 0x08000000

/-- Both bits of the colour change. -/
def recolour : UInt32 := 0x0C000000

/-- Dies when touched. -/
def touchy : UInt32 := 0x10000000

/-- Bounces off floors. -/
def bounces : UInt32 := 0x20000000

/-- Fights for the player. -/
def friend : UInt32 := 0x40000000

/-- Is drawn translucent. -/
def translucent : UInt32 := 0x80000000

/-- The bits that only a mnemonic can set; a number written to the word clears them. -/
def mnemonicOnly : UInt32 := touchy ||| bounces ||| friend ||| translucent

end ThingFlag

/-! ### The extended thing word -/

namespace ExtendedFlag

/-- Falls slowly. -/
def lowGravity : UInt32 := 0x00000001

/-- Attacks at short range only. -/
def shortRange : UInt32 := 0x00000002

/-- Others do not fight back. -/
def damageIgnored : UInt32 := 0x00000004

/-- Immune to explosions. -/
def noRadiusDamage : UInt32 := 0x00000008

/-- Its explosions hurt the immune. -/
def forceRadiusDamage : UInt32 := 0x00000010

/-- Attacks from afar more often. -/
def higherProbability : UInt32 := 0x00000020

/-- Halves the distance it judges. -/
def rangeHalf : UInt32 := 0x00000040

/-- Changes its target at once. -/
def noThreshold : UInt32 := 0x00000080

/-- Has a long reach. -/
def longMelee : UInt32 := 0x00000100

/-- Sounds and resists like a boss. -/
def boss : UInt32 := 0x00000200

/-- First boss of the seventh map. -/
def map07Boss1 : UInt32 := 0x00000400

/-- Second boss of the seventh map. -/
def map07Boss2 : UInt32 := 0x00000800

/-- Boss of the first episode. -/
def e1m8Boss : UInt32 := 0x00001000

/-- Boss of the second episode. -/
def e2m8Boss : UInt32 := 0x00002000

/-- Boss of the third episode. -/
def e3m8Boss : UInt32 := 0x00004000

/-- Boss of the sixth map of the fourth episode. -/
def e4m6Boss : UInt32 := 0x00008000

/-- Boss of the last map of the fourth episode. -/
def e4m8Boss : UInt32 := 0x00010000

/-- Passes through what it hits. -/
def rip : UInt32 := 0x00020000

/-- Is heard everywhere. -/
def fullVolume : UInt32 := 0x00040000

end ExtendedFlag

/-! ### The weapon word -/

namespace WeaponFlag

/-- Does not push what it hits. -/
def noThrust : UInt32 := 0x01

/-- Does not alert monsters. -/
def silent : UInt32 := 0x02

/-- Does not fire while being raised. -/
def noAutoFire : UInt32 := 0x04

/-- Monsters keep their distance. -/
def fleeMelee : UInt32 := 0x08

/-- Is left when ammunition is found. -/
def autoSwitchFrom : UInt32 := 0x10

/-- Is not chosen by itself. -/
def noAutoSwitchTo : UInt32 := 0x20

end WeaponFlag
end DoomPatch
