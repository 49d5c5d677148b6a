import DoomPatch.Baseline.Frames
import DoomPatch.Baseline.Things
import DoomPatch.Baseline.Sprites
import DoomPatch.Baseline.Sounds
import DoomPatch.Baseline.Weapons
import DoomPatch.Baseline.Phrases
import DoomPatch.Text.Case
import DoomPatch.Text.Numeral

/-!
# The unpatched game

Look-ups in the tables of the game that every patch starts from: records by number, and numbers by name.
Sprites, frame labels and mnemonics are looked up in upper case, sounds in lower case, messages as they are.
Beyond the tables, names are made up from the number.
-/

namespace DoomPatch
namespace Baseline

/-- How many things there are. -/
def numThings : Nat := 137

/-- How many frames there are. -/
def numFrames : Nat := 967

/-- How many sprites there are. -/
def numSprites : Nat := 138

/-- How many sounds there are. -/
def numSounds : Nat := 109

/-- How many weapons there are. -/
def numWeapons : Nat := 9

/-- How many types of ammunition there are. -/
def numAmmo : Nat := 4

/-- The entry of a table at an integer position, none for a negative one. -/
def at? {α : Type} (table : Array α) (id : Int) : Option α :=
  if 0 ≤ id then table[id.toNat]? else none

/-- A thing by number. -/
def thing? (id : Int) : Option Thing := at? things id

/-- A frame by number. -/
def frame? (id : Int) : Option Frame := (at? frames id).map (·.frame)

/-- The label of a frame. -/
def label? (id : Int) : Option String := (at? frames id).map (·.label)

/-- A weapon by number. -/
def weapon? (id : Int) : Option Weapon := at? weapons id

/-- A type of ammunition by number. -/
def ammo? (id : Int) : Option Ammo := at? ammo id

/-- A sound by number. -/
def sound? (id : Int) : Option Sound := at? sounds id

/-- A sprite name by number. -/
def sprite? (id : Int) : Option String := at? sprites id

/-- The position of the first entry that satisfies a test. -/
def position? {α : Type} (p : α → Bool) (l : List α) : Option Int := (l.findIdx? p).map Int.ofNat

/-- The number of a sprite. -/
def spriteIndex? (name : String) : Option Int :=
  let key := Text.upper name
  position? (· == key) sprites.toList

/-- The number of a sound.  The nameless sound 0 is never found. -/
def soundIndex? (name : String) : Option Int :=
  let key := Text.lower name
  if key = "" then none else position? (·.name == key) sounds.toList

/-- The number of a labelled frame. -/
def frameIndex? (label : String) : Option Int :=
  let key := Text.upper label
  position? (·.label == key) frames.toList

/-- The reference of a message. -/
def phraseRef? (value : String) : Option String := (phrases.find? (·.value == value)).map (·.ref)

/-- The reference of a mnemonic. -/
def mnemonicRef? (mnemonic : String) : Option String :=
  let key := Text.upper mnemonic
  (phrases.find? (·.mnemonic == key)).map (·.ref)

/-- The name of a thing beyond the table; things are counted from 1 there. -/
def extraThingName (id : Int) : String := s!"DEHEXTRA_{Word.wrap64 (id + 1)}"

/-- The name of a sprite beyond the table: an `S` and at least three digits of base 36. -/
def extraSpriteName (id : Int) : String :=
  let digits := (Numeral.renderInt 36 (Word.wrap64 (id - numSprites))).map Char.toUpper
  String.ofList ('S' :: Numeral.padLeft 3 digits)

/-- The name of a sound beyond the table. -/
def extraSoundName (id : Int) : String := "FRE" ++ Numeral.padInt 3 (Word.wrap64 (id - numSounds))

end Baseline
end DoomPatch
