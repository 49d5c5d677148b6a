import Mathlib.Data.List.Nodup
import DoomPatch.Proofs.Field.Range
import DoomPatch.Proofs.Text.Fold

/-!
# The laws of field tables

A table of fields says how each field of a record is called, which numbers it takes, and how it is read and written.
Whatever the record, a name is that of one field at most; a number that is not in the range of the field is refused, and
the record stays as it is; and a number that is accepted is read back in that field, brought into its normal form, and
changes nothing else.

* `FieldKind.Takes`, `FieldKind.validate_eq_ok_iff` — the range of each kind; exactly the numbers in it are accepted.
* `FieldTable.Keyed`, `find?_eq_some_iff` — no two names fold to the same key, so a field is found under exactly what
  denotes its name: the name in any letter case, with or without white space around it.
* `ThingField.normal`, … — what a number is read as once it is stored.
* `FieldTable.Obeys` — what writing a number to the field of a name does to a record.
* `FieldTable.obeys_all` — all six tables obey.
-/

namespace DoomPatch

/-! ### Ranges -/

namespace FieldKind

/-- The range of a kind. -/
def Takes (lim : Limits) (v : Int) : FieldKind → Prop
  | any | bits => True
  | nonNegative => 0 ≤ v
  | positive => 1 ≤ v
  | frame => 0 ≤ v ∧ v ≤ lim.frames
  | sound => 0 ≤ v ∧ v ≤ lim.sounds
  | sprite => 0 ≤ v ∧ v ≤ lim.sprites
  | subSprite => (0 ≤ v ∧ v ≤ 31) ∨ (0x8000 ≤ v ∧ v ≤ 0x801F)
  | ammo => 0 ≤ v ∧ v ≤ 5

/-- Without the brightness bit there are 32 pictures; a negative number keeps its sign and is none of them. -/
theorem clearBit_picture_iff (v : Int) :
    (0 ≤ Word.clearBit v 15 ∧ Word.clearBit v 15 ≤ maxPicture) ↔ (0 ≤ v ∧ v ≤ 31) ∨ (0x8000 ≤ v ∧ v ≤ 0x801F) := by
  have hshift : v >>> (15 : Nat) = v / 32768 := Int.shiftRight_eq_div_pow v 15
  have hbit : Int.ofNat (1 <<< 15) = 32768 := rfl
  unfold Word.clearBit Word.testBit maxPicture
  rw [hshift, hbit]
  split
  · next hset =>
    have hodd : v / 32768 % 2 = 1 := by simpa using hset
    omega
  · next hclear =>
    have heven : ¬ v / 32768 % 2 = 1 := by simpa using hclear
    omega

theorem validate_eq_ok_iff (kind : FieldKind) (field : String) (v : Int) (lim : Limits) :
    kind.validate field v lim = .ok () ↔ kind.Takes lim v := by
  cases kind with
  | any | bits => exact iff_of_true rfl trivial
  | nonNegative =>
      change (if v < 0 then .error _ else .ok ()) = Except.ok () ↔ 0 ≤ v
      split
      · next hneg => exact iff_of_false (by simp) (by omega)
      · next hnonneg => exact iff_of_true rfl (by omega)
  | positive =>
      change (if v < 1 then .error _ else .ok ()) = Except.ok () ↔ 1 ≤ v
      split
      · next hsmall => exact iff_of_false (by simp) (by omega)
      · next hlarge => exact iff_of_true rfl (by omega)
  | frame | sound | sprite | ammo => exact checkIndex_eq_ok_iff
  | subSprite => exact checkIndex_eq_ok_iff.trans (clearBit_picture_iff v)

end FieldKind

/-! ### Names -/

/-- The characters of a text in ASCII, from its bytes. -/
def Text.byteChars (s : String) : List Char := (bytes s).map fun b => Char.ofNat b.toNat

/-- Whether a text is in ASCII and has no white space at its ends. -/
def Text.isPlain (s : String) : Bool :=
  asciiBytes s && (byteChars s).head?.all (!isBlank ·) && (byteChars s).getLast?.all (!isBlank ·)

theorem Text.ascii_of_isPlain {s : String} (hplain : isPlain s = true) : asciiBytes s = true :=
  (Bool.and_eq_true_iff.1 (Bool.and_eq_true_iff.1 hplain).1).1

theorem Text.trimmed_of_isPlain {s : String} (hplain : isPlain s = true) : Trimmed s.toList := by
  have hchars : s.toList = byteChars s := toList_of_ascii (ascii_of_isPlain hplain)
  obtain ⟨hfront, hlast⟩ := Bool.and_eq_true_iff.1 hplain
  have hhead := (Bool.and_eq_true_iff.1 hfront).2
  rw [hchars]
  constructor
  · intro c rest heq
    rw [heq] at hhead
    simpa using hhead
  · intro rest c heq
    rw [heq] at hlast
    simpa using hlast

namespace FieldTable

variable {φ ρ σ : Type} {t : FieldTable φ ρ}

/-- Every field is listed, names are in ASCII and have no white space at their ends, and no two of them have the same
key. -/
structure Keyed (t : FieldTable φ ρ) : Prop where
  listed : ∀ f, f ∈ t.all
  ascii : ∀ f, ∀ c ∈ (t.name f).toList, c.toNat < 128
  trimmed : ∀ f, Text.Trimmed (t.name f).toList
  distinct : ∀ f g, key (t.name f) = key (t.name g) → f = g

theorem Keyed.of_bytes (hlisted : ∀ f, f ∈ t.all) (hplain : ∀ f ∈ t.all, Text.isPlain (t.name f) = true)
    (hnodup : (t.all.map fun f => Text.foldName (Text.trimChars (Text.byteChars (t.name f)))).Nodup) : t.Keyed := by
  have hascii : ∀ f, asciiBytes (t.name f) = true := fun f => Text.ascii_of_isPlain (hplain f (hlisted f))
  have hkey : ∀ f, key (t.name f) = Text.foldName (Text.trimChars (Text.byteChars (t.name f))) := by
    intro f
    unfold key Text.byteChars
    rw [toList_of_ascii (hascii f)]
  refine ⟨hlisted, fun f c => toNat_lt_of_ascii (hascii f), fun f => Text.trimmed_of_isPlain (hplain f (hlisted f)),
    fun f g heq => ?_⟩
  rw [hkey, hkey] at heq
  exact List.inj_on_of_nodup_map hnodup (hlisted f) (hlisted g) heq

/-- A field is found under what denotes its name, and under nothing else. -/
theorem Keyed.find?_eq_some_iff (hkeyed : t.Keyed) {name : String} {f : φ} :
    t.find? name = some f ↔ Text.Denotes name (t.name f) := by
  rw [Text.denotes_iff (hkeyed.ascii f) (hkeyed.trimmed f)]
  change _ ↔ key (t.name f) = key name
  unfold find?
  constructor
  · intro hfound
    simpa using List.find?_some hfound
  · intro hkey
    cases hfound : t.all.find? fun g => key (t.name g) == key name with
    | none => simpa [hkey] using List.find?_eq_none.1 hfound f (hkeyed.listed f)
    | some g =>
        have hother : key (t.name g) = key name := by simpa using List.find?_some hfound
        rw [hkeyed.distinct g f (hother.trans hkey.symm)]

theorem Keyed.find?_eq_none_iff (hkeyed : t.Keyed) {name : String} :
    t.find? name = none ↔ ∀ f, ¬ Text.Denotes name (t.name f) := by
  rw [Option.eq_none_iff_forall_ne_some]
  exact forall_congr' fun f => not_congr hkeyed.find?_eq_some_iff

/-! ### Records -/

/-- A field is read as the normal form of what is stored in it, and whatever else there is in a record stays. -/
structure Lawful (t : FieldTable φ ρ) (normal : φ → Int → Int) (rest : ρ → σ) : Prop where
  keyed : t.Keyed
  apart : t.Apart
  read : ∀ f v r, t.get f (t.store f v r) = normal f v
  kept : ∀ f v r, rest (t.set f v r) = rest r

/-- The record after a number is written to the field of a name; if nothing is stored, it stays as it is. -/
def written (t : FieldTable φ ρ) (name : String) (v : Int) (lim : Limits) (r : ρ) : ρ :=
  match t.write name v lim r with
  | some (.ok r') => r'
  | _ => r

/-- What writing a number to the field of a name does to a record. -/
structure Obeys (t : FieldTable φ ρ) (normal : φ → Int → Int) (rest : ρ → σ) (name : String) (v : Int) (lim : Limits)
    (r : ρ) : Prop where
  ranged : ∀ f, t.validate f v lim = .ok () ↔ (t.kind f).Takes lim v
  single : ∀ f g, Text.Denotes name (t.name f) → Text.Denotes name (t.name g) → f = g
  unknown : (∀ f, ¬ Text.Denotes name (t.name f)) → t.write name v lim r = none ∧ t.written name v lim r = r
  refused : ∀ f, Text.Denotes name (t.name f) → ∀ e, t.validate f v lim = .error e →
    t.write name v lim r = some (.error e) ∧ t.written name v lim r = r
  stored : ∀ f, Text.Denotes name (t.name f) → t.validate f v lim = .ok () →
    t.write name v lim r = some (.ok (t.written name v lim r)) ∧ t.get f (t.written name v lim r) = normal f v ∧
      (∀ g, g ≠ f → t.get g (t.written name v lim r) = t.get g r) ∧ rest (t.written name v lim r) = rest r

variable {normal : φ → Int → Int} {rest : ρ → σ}

theorem Lawful.obeys (hlawful : t.Lawful normal rest) (name : String) (v : Int) (lim : Limits) (r : ρ) :
    t.Obeys normal rest name v lim r where
  ranged f := FieldKind.validate_eq_ok_iff _ _ _ _
  single f g hf hg := by
    have hfound := hlawful.keyed.find?_eq_some_iff.2 hf
    rw [hlawful.keyed.find?_eq_some_iff.2 hg] at hfound
    exact (Option.some.inj hfound).symm
  unknown hnone := by
    have hwrite : t.write name v lim r = none := by
      unfold write
      rw [hlawful.keyed.find?_eq_none_iff.2 hnone]
      rfl
    exact ⟨hwrite, by unfold written; rw [hwrite]⟩
  refused f hname e herror := by
    have hwrite : t.write name v lim r = some (.error e) := by
      unfold write
      rw [hlawful.keyed.find?_eq_some_iff.2 hname, Option.map_some, herror]
      rfl
    exact ⟨hwrite, by unfold written; rw [hwrite]⟩
  stored f hname hvalid := by
    have hwrite : t.write name v lim r = some (.ok (t.store f v r)) := by
      unfold write
      rw [hlawful.keyed.find?_eq_some_iff.2 hname, Option.map_some, hvalid]
      rfl
    have hwritten : t.written name v lim r = t.store f v r := by
      unfold written
      rw [hwrite]
    obtain ⟨n, hset⟩ := t.exists_store_eq_set f v
    rw [hwritten]
    refine ⟨hwrite, hlawful.read f v r, fun g hne => ?_, ?_⟩
    · rw [hset, hlawful.apart hne]
    · rw [hset, hlawful.kept]

end FieldTable

theorem Word.toNat_low32 (v : Int) : Int.ofNat (low32 v).toNat = v % 4294967296 := by
  have hword : (low32 v).toNat = (v % 4294967296).toNat % 4294967296 := rfl
  rw [hword, Int.ofNat_eq_natCast]
  omega

/-- A word is the low 32 bits of its number. -/
theorem Word.toNat_low32_toNat (w : UInt32) : Int.ofNat (low32 (Int.ofNat w.toNat)).toNat = Int.ofNat w.toNat := by
  have hlt : w.toNat < 4294967296 := w.toNat_lt
  rw [toNat_low32, Int.ofNat_eq_natCast]
  omega

theorem Thing.rawOf_ofRaw (v : Int) : rawOf (ofRaw v) = v := by
  unfold rawOf ofRaw
  split
  · next hunset => exact hunset.symm
  · rfl

namespace ThingField

/-- What a number is read as: the classic flag word is without the bits that only a mnemonic can set. -/
def normal (f : ThingField) (v : Int) : Int :=
  match f with
  | flags => Int.ofNat (Word.low32 v &&& ~~~ThingFlag.mnemonicOnly).toNat
  | mbf21 => v % 4294967296
  | _ => v

/-- What is not written by fields. -/
def rest (t : Thing) : String × Int := (t.name, t.player)

set_option maxRecDepth 4000 in
theorem keyed : table.Keyed := .of_bytes (by intro f; cases f <;> decide) (by decide) (by decide)

theorem lawful : table.Lawful normal rest where
  keyed := keyed
  apart := apart
  read f v r := by
    cases f with
    | flags =>
        have hmask : ThingFlag.mnemonicOnly ≠ 0 := by decide
        have hstore : table.store flags v r =
            set flags (Int.ofNat (Word.low32 v &&& ~~~ThingFlag.mnemonicOnly).toNat) r := if_neg hmask
        rw [hstore]
        exact Word.toNat_low32_toNat _
    | mbf21 => exact Word.toNat_low32 v
    | infightGroup | projectileGroup | splashGroup | fastSpeed | meleeRange => exact Thing.rawOf_ofRaw v
    | _ => rfl
  kept f v r := by cases f <;> rfl

end ThingField

namespace FrameField

/-- What a number is read as. -/
def normal (f : FrameField) (v : Int) : Int :=
  match f with
  | flags => v % 4294967296
  | _ => v

set_option maxRecDepth 4000 in
theorem keyed : table.Keyed := by
  refine .of_bytes (fun f => ?_) (by decide) (by decide)
  cases f with
  | arg n => revert n; decide
  | _ => decide

theorem lawful : table.Lawful normal Frame.action where
  keyed := keyed
  apart := apart
  read f v r := by
    cases f with
    | flags => exact Word.toNat_low32 v
    | arg n => exact Vector.getElem_set_self n.isLt
    | _ => rfl
  kept f v r := by cases f <;> rfl

end FrameField

namespace WeaponField

/-- What a number is read as. -/
def normal (f : WeaponField) (v : Int) : Int :=
  match f with
  | flags => v % 4294967296
  | _ => v

set_option maxRecDepth 4000 in
theorem keyed : table.Keyed := .of_bytes (by intro f; cases f <;> decide) (by decide) (by decide)

theorem lawful : table.Lawful normal Weapon.name where
  keyed := keyed
  apart := apart
  read f v r := by
    cases f with
    | flags => exact Word.toNat_low32 v
    | _ => rfl
  kept f v r := by cases f <;> rfl

end WeaponField

namespace AmmoField

/-- What a number is read as: the maximum is capped. -/
def normal (f : AmmoField) (v : Int) : Int :=
  match f with
  | max => min v 10000
  | per => v

set_option maxRecDepth 4000 in
theorem keyed : table.Keyed := .of_bytes (by intro f; cases f <;> decide) (by decide) (by decide)

theorem lawful : table.Lawful normal Ammo.name where
  keyed := keyed
  apart := apart
  read f v r := by cases f <;> rfl
  kept f v r := by cases f <;> rfl

end AmmoField

/-- Sounds and global values keep their numbers as they are. -/
def FieldTable.asIs {φ : Type} (_ : φ) (v : Int) : Int := v

namespace SoundField

set_option maxRecDepth 4000 in
theorem keyed : table.Keyed := .of_bytes (by intro f; cases f <;> decide) (by decide) (by decide)

theorem lawful : table.Lawful FieldTable.asIs Sound.name where
  keyed := keyed
  apart := apart
  read f v r := by cases f <;> rfl
  kept f v r := by cases f <;> rfl

end SoundField

namespace MiscField

set_option maxRecDepth 4000 in
theorem keyed : table.Keyed := .of_bytes (by intro f; cases f <;> decide) (by decide) (by decide)

/-- All global values are fields. -/
theorem lawful : table.Lawful FieldTable.asIs fun _ => () where
  keyed := keyed
  apart := apart
  read f v r := by cases f <;> rfl
  kept _ _ _ := rfl

end MiscField

/-- All six tables obey, whatever the name, the number, the limits and the record.  A field is found under its name in
any letter case and with white space around it, and under nothing else. -/
theorem FieldTable.obeys_all (name : String) (v : Int) (lim : Limits) :
    (∀ t, ThingField.table.Obeys ThingField.normal ThingField.rest name v lim t) ∧
      (∀ f, FrameField.table.Obeys FrameField.normal Frame.action name v lim f) ∧
      (∀ w, WeaponField.table.Obeys WeaponField.normal Weapon.name name v lim w) ∧
      (∀ a, AmmoField.table.Obeys AmmoField.normal Ammo.name name v lim a) ∧
      (∀ s, SoundField.table.Obeys asIs Sound.name name v lim s) ∧
      ∀ m, MiscField.table.Obeys asIs (fun _ => ()) name v lim m :=
  ⟨ThingField.lawful.obeys name v lim, FrameField.lawful.obeys name v lim, WeaponField.lawful.obeys name v lim,
    AmmoField.lawful.obeys name v lim, SoundField.lawful.obeys name v lim, MiscField.lawful.obeys name v lim⟩

end DoomPatch
