import DoomPatch.Baseline
import DoomPatch.Fault
import DoomPatch.Text.Blank

/-!
# Fields

A patch writes the fields of a record by name.  Every field has a kind, which says which numbers it takes;
some kinds are limited by the size of the tables, and those limits depend on the version of the patch.

* `Limits.ofVersion` — version 2021 raises the limits from the tables of the game to 32767.
* `FieldKind.accepts` — the range of a kind.
* `FieldTable` — the fields of one type of record, with how each is read and written.
* `FieldTable.find?` — a field by name, ignoring case and white space around it.
* `FieldTable.write` — validate, then store.
-/

namespace DoomPatch

/-- What a number of a field means, which decides its range. -/
inductive FieldKind where
  /-- Any number. -/
  | any
  /-- Zero or more. -/
  | nonNegative
  /-- One or more. -/
  | positive
  /-- The number of a frame. -/
  | frame
  /-- The number of a sound. -/
  | sound
  /-- The number of a sprite. -/
  | sprite
  /-- The picture of a sprite, with or without the brightness bit. -/
  | subSprite
  /-- The number of an ammunition type; 4 and 5 mean none. -/
  | ammo
  /-- A flag word. -/
  | bits
deriving DecidableEq, Repr

namespace FieldKind

/-- The kinds in the order of their numbers. -/
def all : List FieldKind := [any, nonNegative, positive, frame, sound, sprite, subSprite, ammo, bits]

/-- The name of a kind in listings. -/
def name : FieldKind → String
  | any => "any"
  | nonNegative => "non-negative"
  | positive => "positive"
  | frame => "frame"
  | sound => "sound"
  | sprite => "sprite"
  | subSprite => "subsprite"
  | ammo => "ammo"
  | bits => "bits"

end FieldKind

/-- The largest numbers a patch may refer to. -/
structure Limits where
  /-- The last frame. -/
  frames : Int
  /-- The last sound. -/
  sounds : Int
  /-- The last sprite. -/
  sprites : Int
  /-- Whether numbers beyond the tables are allowed. -/
  extended : Bool
deriving DecidableEq

namespace Limits

/-- The first version that allows numbers beyond the tables. -/
def extendedVersion : Int := 2021

/-- The last number of an extended table. -/
def extendedMax : Int := 32767

/-- The limits of a patch version. -/
def ofVersion (version : Int) : Limits :=
  if extendedVersion ≤ version then ⟨extendedMax, extendedMax, extendedMax, true⟩
  else ⟨Baseline.numFrames - 1, Baseline.numSounds - 1, Baseline.numSprites - 1, false⟩

end Limits

/-- Why a number or a record is refused. -/
inductive RangeError where
  /-- A quantity below zero. -/
  | negative (field : String) (value : Int)
  /-- A quantity below one. -/
  | notPositive (field : String) (value : Int)
  /-- A number outside a table. -/
  | outside (field : String) (value max : Int)
  /-- A record with a negative number. -/
  | negativeId (entity : String) (id : Int)
  /-- A record beyond the table, in a version that does not allow it. -/
  | beyondTable (entity : String) (id size version : Int)
  /-- A record beyond the extended table. -/
  | beyondExtended (entity : String) (id : Int)
  /-- A frame to copy from that does not exist. -/
  | noSource (id : Int)
deriving DecidableEq

namespace RangeError

/-- The wording. -/
def message : RangeError → String
  | negative f v => s!"{f} must not be negative, got {v}"
  | notPositive f v => s!"{f} must be positive, got {v}"
  | outside f v m => s!"{f} {v} outside [0, {m}]"
  | negativeId e i => s!"{e} {i} is negative"
  | beyondTable e i n v => s!"{e} {i} beyond the {n} built-in entries (patch version {v})"
  | beyondExtended e i => s!"{e} {i} beyond {Limits.extendedMax}"
  | noSource i => s!"source frame {i} does not exist"

/-- The fault. -/
def fault (e : RangeError) : Fault := Fault.new Code.outOfRange e.message

end RangeError

namespace FieldKind

/-- The last ammunition number. -/
def maxAmmo : Int := 5

/-- The last picture of a sprite. -/
def maxPicture : Int := 31

/-- Checks a number against the last one of a table. -/
def checkIndex (field : String) (v max : Int) : Except RangeError Unit :=
  if v < 0 ∨ max < v then .error (.outside field v max) else .ok ()

/-- Checks a number for a field of a kind. -/
def validate (kind : FieldKind) (field : String) (v : Int) (lim : Limits) : Except RangeError Unit :=
  match kind with
  | any | bits => .ok ()
  | nonNegative => if v < 0 then .error (.negative field v) else .ok ()
  | positive => if v < 1 then .error (.notPositive field v) else .ok ()
  | frame => checkIndex field v lim.frames
  | sound => checkIndex field v lim.sounds
  | sprite => checkIndex field v lim.sprites
  | ammo => checkIndex field v maxAmmo
  | subSprite => checkIndex field (Word.clearBit v 15) maxPicture

/-- Whether a number is in the range of a kind. -/
def accepts (kind : FieldKind) (v : Int) (lim : Limits) : Bool :=
  match kind.validate "" v lim with
  | .ok _ => true
  | .error _ => false

end FieldKind

/-- The fields `φ` of records `ρ`: how each is called, limited, read and written. -/
structure FieldTable (φ ρ : Type) where
  /-- The fields in order. -/
  all : List φ
  /-- What a field is called. -/
  name : φ → String
  /-- What its numbers mean. -/
  kind : φ → FieldKind
  /-- The bits that a number cannot set. -/
  mask : φ → UInt32
  /-- Reads a field. -/
  get : φ → ρ → Int
  /-- Writes a field. -/
  set : φ → Int → ρ → ρ

namespace FieldTable

variable {φ ρ : Type}

/-- The form of a name that look-ups compare. -/
def key (name : String) : List Char := Text.foldName (Text.trimChars name.toList)

/-- The field of a name. -/
def find? (t : FieldTable φ ρ) (name : String) : Option φ :=
  let k := key name
  t.all.find? fun f => key (t.name f) == k

/-- The names in ascending order. -/
def names (t : FieldTable φ ρ) : List String :=
  (t.all.map t.name).mergeSort fun a b => decide (a ≤ b)

/-- Checks a number for a field. -/
def validate (t : FieldTable φ ρ) (f : φ) (v : Int) (lim : Limits) : Except RangeError Unit :=
  (t.kind f).validate (t.name f) v lim

/-- Stores a number without checking it; masked bits of a flag word are dropped. -/
def store (t : FieldTable φ ρ) (f : φ) (v : Int) (r : ρ) : ρ :=
  if t.mask f = 0 then t.set f v r
  else t.set f (Int.ofNat (Word.low32 v &&& ~~~(t.mask f)).toNat) r

/-- Writes a number to the field of a name, if there is such a field. -/
def write (t : FieldTable φ ρ) (name : String) (v : Int) (lim : Limits) (r : ρ) :
    Option (Except RangeError ρ) :=
  (t.find? name).map fun f => (t.validate f v lim).map fun _ => t.store f v r

end FieldTable
end DoomPatch
