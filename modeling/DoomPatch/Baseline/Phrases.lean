/-!
# The strings of the unpatched game

Every message a patch can replace, with the reference a language definition uses and the mnemonic a patch
may use instead of the message itself.
-/

namespace DoomPatch
namespace Baseline

/-- A replaceable message. -/
structure Phrase where
  /-- The reference of the language definition. -/
  ref : String
  /-- The mnemonic, in upper case. -/
  mnemonic : String
  /-- The message. -/
  value : String
deriving Inhabited

/-- The messages in the order of the game. -/
def phrases : List Phrase := [
  ⟨"GotArmour", "GOTARMOR", "Picked up the armor."⟩,
  ⟨"GotMegaArmour", "GOTMEGA", "Picked up the MegaArmor!"⟩,
  ⟨"GotHealthPotion", "GOTHTHBONUS", "Picked up a health bonus."⟩,
  ⟨"GotArmourHelmet", "GOTARMBONUS", "Picked up an armor bonus."⟩,
  ⟨"GotStim", "GOTSTIM", "Picked up a stimpack."⟩,
  ⟨"GotMedi", "GOTMEDIKIT", "Picked up a medikit."⟩,
  ⟨"GotMediNeed", "GOTMEDINEED", "Picked up a medikit that you REALLY need!"⟩,
  ⟨"GotSoul", "GOTSUPER", "Supercharge!"⟩,
  ⟨"GotMega", "GOTMSPHERE", "MegaSphere!"⟩,
  ⟨"GotBlueCard", "GOTBLUECARD", "Picked up a blue keycard."⟩,
  ⟨"GotYellowCard", "GOTYELWCARD", "Picked up a yellow keycard."⟩,
  ⟨"GotRedCard", "GOTREDCARD", "Picked up a red keycard."⟩,
  ⟨"GotBlueSkull", "GOTBLUESKUL", "Picked up a blue skull key."⟩,
  ⟨"GotYellowSkull", "GOTYELWSKUL", "Picked up a yellow skull key."⟩,
  ⟨"GotRedSkull", "GOTREDSKULL", "Picked up a red skull key."⟩,
  ⟨"GotInvulner", "GOTINVUL", "Invulnerability!"⟩,
  ⟨"GotBerserk", "GOTBERSERK", "Berserk!"⟩,
  ⟨"GotInvis", "GOTINVIS", "Partial Invisibility"⟩,
  ⟨"GotSuit", "GOTSUIT", "Radiation Shielding Suit"⟩,
  ⟨"GotMap", "GOTMAP", "Computer Area Map"⟩,
  ⟨"GotVisor", "GOTVISOR", "Light Amplification Visor"⟩,
  ⟨"GotClip", "GOTCLIP", "Picked up a clip."⟩,
  ⟨"GotClipBox", "GOTCLIPBOX", "Picked up a box of bullets."⟩,
  ⟨"GotRocket", "GOTROCKET", "Picked up a rocket."⟩,
  ⟨"GotRocketBox", "GOTROCKBOX", "Picked up a box of rockets."⟩,
  ⟨"GotCell", "GOTCELL", "Picked up an energy cell."⟩,
  ⟨"GotCellPack", "GOTCELLBOX", "Picked up an energy cell pack."⟩,
  ⟨"GotShells", "GOTSHELLS", "Picked up 4 shotgun shells."⟩,
  ⟨"GotShellBox", "GOTSHELLBOX", "Picked up a box of shotgun shells."⟩,
  ⟨"GotBackpack", "GOTBACKPACK", "Picked up a backpack full of ammo!"⟩,
  ⟨"GotBFG", "GOTBFG9000", "You got the BFG9000!  Oh, yes."⟩,
  ⟨"GotChainGun", "GOTCHAINGUN", "You got the chaingun!"⟩,
  ⟨"GotChainSaw", "GOTCHAINSAW", "A chainsaw!  Find some meat!"⟩,
  ⟨"GotLauncher", "GOTLAUNCHER", "You got the rocket launcher!"⟩,
  ⟨"GotPlasma", "GOTPLASMA", "You got the plasma gun!"⟩,
  ⟨"GotShotgun", "GOTSHOTGUN", "You got the shotgun!"⟩,
  ⟨"GotDoubleShotgun", "GOTSHOTGUN2", "You got the super shotgun!"⟩,
  ⟨"NeedBlueForDoor", "PD_BLUEO", "You need a blue key to open this door"⟩,
  ⟨"NeedRedForDoor", "PD_REDO", "You need a red key to open this door"⟩,
  ⟨"NeedYellowForDoor", "PD_YELLOWO", "You need a yellow key to open this door"⟩,
  ⟨"GameSaved", "GGSAVED", "game saved."⟩,
  ⟨"Level1", "HUSTR_1", "level 1: entryway"⟩,
  ⟨"Level2", "HUSTR_2", "level 2: underhalls"⟩]

end Baseline
end DoomPatch
