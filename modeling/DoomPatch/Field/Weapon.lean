import DoomPatch.Field

/-!
# Fields of weapons

The select frame is the one a weapon is lowered with: the patch format counts from the weapon it leaves.
The flag word keeps its low 32 bits.
-/

namespace DoomPatch

/-- The fields of a weapon that a patch can write. -/
inductive WeaponField where
  /-- The field called Ammo type. -/
  | ammo
  /-- The field called Deselect frame. -/
  | up
  /-- The field called Select frame. -/
  | down
  /-- The field called Bobbing frame. -/
  | ready
  /-- The field called Shooting frame. -/
  | attack
  /-- The field called Firing frame. -/
  | flash
  /-- The field called Ammo per shot. -/
  | perShot
  /-- The field called Slot. -/
  | slot
  /-- The field called Slot Priority. -/
  | priority
  /-- The field called MBF21 Bits. -/
  | flags
deriving DecidableEq, Repr

namespace WeaponField

/-- The fields in order. -/
def all : List WeaponField := [
  ammo, up, down, ready, attack, flash, perShot, slot, priority, flags]

/-- What a field is called. -/
def name : WeaponField → String
  | ammo => "Ammo type"
  | up => "Deselect frame"
  | down => "Select frame"
  | ready => "Bobbing frame"
  | attack => "Shooting frame"
  | flash => "Firing frame"
  | perShot => "Ammo per shot"
  | slot => "Slot"
  | priority => "Slot Priority"
  | flags => "MBF21 Bits"

/-- What the numbers of a field mean. -/
def kind : WeaponField → FieldKind
  | ammo => .ammo
  | up | down | ready | attack | flash => .frame
  | perShot | slot | priority => .nonNegative
  | flags => .bits

/-- Reads a field. -/
def get (f : WeaponField) (r : Weapon) : Int :=
  match f with
  | ammo => r.ammo
  | up => r.up
  | down => r.down
  | ready => r.ready
  | attack => r.attack
  | flash => r.flash
  | perShot => r.perShot
  | slot => r.slot
  | priority => r.priority
  | flags => Int.ofNat r.flags.toNat

/-- Writes a field. -/
def set (f : WeaponField) (v : Int) (r : Weapon) : Weapon :=
  match f with
  | ammo => { r with ammo := v }
  | up => { r with up := v }
  | down => { r with down := v }
  | ready => { r with ready := v }
  | attack => { r with attack := v }
  | flash => { r with flash := v }
  | perShot => { r with perShot := v }
  | slot => { r with slot := v }
  | priority => { r with priority := v }
  | flags => { r with flags := Word.low32 v }

/-- The fields of a weapon. -/
def table : FieldTable WeaponField Weapon := ⟨all, name, kind, fun _ => 0, get, set⟩

end WeaponField
end DoomPatch
