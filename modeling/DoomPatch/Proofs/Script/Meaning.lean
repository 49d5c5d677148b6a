import DoomPatch.Proofs.SortedMap
import DoomPatch.Script
import Mathlib.Data.List.Forall2

/-!
# What the entries of a script mean

An entry aims at one target and says what to do with it.  `Means` gives the rules for that without an order of
checks: one rule for each kind of edit, which states what the entry holds.  Reading a script agrees with the rules.

* `Entry.named` — the targets that an entry names.
* `Entry.WellFormed` — there is one of them, and the entry says all that is needed.
* `Entry.Says`, `Entry.Means` — the rules.
* `Entry.edit_eq_ok_iff`, `Entry.wellFormed_iff` — an entry is read as the edit it means, and as none exactly if it is
  not well formed.
* `Script.editsFrom_eq_ok_iff`, `Script.exists_first_of_editsFrom` — lists of entries, and the first that means nothing.
* `Entry.ofEdit`, `Entry.means_ofEdit` — the entry that an edit is written as means the edit.
* `Script.ofDocument_translates` — all of that together.
-/

namespace DoomPatch
namespace Entry

/-- What an entry can aim at. -/
inductive Target where
  /-- A thing, counted from 1. -/
  | thing (number : Int)
  /-- A frame. -/
  | frame (id : Int)
  /-- A weapon. -/
  | weapon (id : Int)
  /-- An ammunition type. -/
  | ammo (id : Int)
  /-- A sound. -/
  | sound (id : Int)
  /-- A global value. -/
  | misc (name : String)
  /-- A text, with what replaces it. -/
  | text (old new : String)
  /-- The message of a mnemonic. -/
  | phrase (mnemonic : String)

variable {e : Entry} {t : Target} {x : Edit}

/-- The targets that an entry names. -/
def named (e : Entry) : List Target :=
  [e.thing.map .thing, e.frame.map .frame, e.weapon.map .weapon, e.ammo.map .ammo, e.sound.map .sound,
    e.misc.map .misc, e.text.map fun r => .text r.1 r.2, e.phrase.map .phrase].filterMap id

/-- An entry gives a name for a field and a number to write to it. -/
def HasNumber (e : Entry) (field : String) : Prop := field ≠ "" ∧ e.value.isSome

/-- An entry says all that is needed about a target. -/
def Complete (e : Entry) : Target → Prop
  | .thing n => 1 ≤ n ∧ (e.bits.isSome ∨ e.extendedBits.isSome ∨ e.HasNumber e.field)
  | .frame _ => e.pointer.isSome ∨ e.pointerFrom.isSome ∨ e.HasNumber e.field
  | .weapon _ => e.bits.isSome ∨ e.HasNumber e.field
  | .ammo _ | .sound _ => e.HasNumber e.field
  | .misc name => e.HasNumber name
  | .text old _ => old ≠ ""
  | .phrase mnemonic => mnemonic ≠ ""

/-- An entry names one target and says all that is needed about it. -/
def WellFormed (e : Entry) : Prop := ∃ t, e.named = [t] ∧ e.Complete t

/-- What an entry says about a target.  Flags go before extended flags and both before numbers; a code pointer goes
before the frame to copy one from, and both before numbers. -/
inductive Says (e : Entry) : Target → Edit → Prop where
  | thingBits {n : Int} {tokens : String} (hn : 1 ≤ n) (hbits : e.bits = some tokens) :
      Says e (.thing n) (.thingBits (n - 1) tokens)
  | thingExtendedBits {n : Int} {tokens : String} (hn : 1 ≤ n) (hbits : e.bits = none)
      (hextended : e.extendedBits = some tokens) : Says e (.thing n) (.thingExtendedBits (n - 1) tokens)
  | thingField {n v : Int} (hn : 1 ≤ n) (hbits : e.bits = none) (hextended : e.extendedBits = none)
      (hfield : e.field ≠ "") (hvalue : e.value = some v) : Says e (.thing n) (.thingField (n - 1) e.field v)
  | pointer {id : Int} {mnemonic : String} (hpointer : e.pointer = some mnemonic) :
      Says e (.frame id) (.pointer id mnemonic)
  | pointerCopy {id source : Int} (hpointer : e.pointer = none) (hsource : e.pointerFrom = some source) :
      Says e (.frame id) (.pointerCopy id source)
  | frameField {id v : Int} (hpointer : e.pointer = none) (hsource : e.pointerFrom = none) (hfield : e.field ≠ "")
      (hvalue : e.value = some v) : Says e (.frame id) (.frameField id e.field v)
  | weaponBits {id : Int} {tokens : String} (hbits : e.bits = some tokens) :
      Says e (.weapon id) (.weaponBits id tokens)
  | weaponField {id v : Int} (hbits : e.bits = none) (hfield : e.field ≠ "") (hvalue : e.value = some v) :
      Says e (.weapon id) (.weaponField id e.field v)
  | ammoField {id v : Int} (hfield : e.field ≠ "") (hvalue : e.value = some v) :
      Says e (.ammo id) (.ammoField id e.field v)
  | soundField {id v : Int} (hfield : e.field ≠ "") (hvalue : e.value = some v) :
      Says e (.sound id) (.soundField id e.field v)
  | miscField {name : String} {v : Int} (hname : name ≠ "") (hvalue : e.value = some v) :
      Says e (.misc name) (.miscField 0 name v)
  | text {old new : String} (hold : old ≠ "") : Says e (.text old new) (.text old new)
  | phrase {mnemonic : String} (hmnemonic : mnemonic ≠ "") : Says e (.phrase mnemonic) (.phrase mnemonic e.message)

/-- An entry means an edit if that is what it says about its only target. -/
def Means (e : Entry) (x : Edit) : Prop := ∃ t, e.named = [t] ∧ e.Says t x

/-! ### One entry -/

theorem targets_eq_length (e : Entry) : e.targets = e.named.length := by
  unfold targets named
  rw [List.length_filterMap_eq_countP, List.count]
  simp [List.countP_cons]

/-- What reading an entry does with a target. -/
def editAt (e : Entry) : Target → Except EntryError Edit
  | .thing n => e.thingEdit n
  | .frame id => e.frameEdit id
  | .weapon id => e.weaponEdit id
  | .ammo id => e.fieldEdit "ammo" e.field (.ammoField id)
  | .sound id => e.fieldEdit "sound" e.field (.soundField id)
  | .misc name => e.fieldEdit "misc" name (.miscField 0)
  | .text old new => textEdit old new
  | .phrase mnemonic => e.phraseEdit mnemonic

/-- The first target that is found is the only one. -/
theorem targetEdit_of_named (hnamed : e.named = [t]) : e.targetEdit = e.editAt t := by
  -- The branches of the reader stand in the order of its search, but what any of them finds is named.
  have honly : ∀ t', t' ∈ e.named → t' = t := fun t' h => List.mem_singleton.1 (hnamed ▸ h)
  unfold targetEdit
  split
  · next n hthing => rw [← honly (.thing n) (by simp [named, hthing])]; rfl
  · next id _ hframe => rw [← honly (.frame id) (by simp [named, hframe])]; rfl
  · next id _ _ hweapon => rw [← honly (.weapon id) (by simp [named, hweapon])]; rfl
  · next id _ _ _ hammo => rw [← honly (.ammo id) (by simp [named, hammo])]; rfl
  · next id _ _ _ _ hsound => rw [← honly (.sound id) (by simp [named, hsound])]; rfl
  · next name _ _ _ _ _ hmisc => rw [← honly (.misc name) (by simp [named, hmisc])]; rfl
  · next old new _ _ _ _ _ _ htext => rw [← honly (.text old new) (by simp [named, htext])]; rfl
  · next mnemonic _ _ _ _ _ _ _ hphrase => rw [← honly (.phrase mnemonic) (by simp [named, hphrase])]; rfl
  · next hthing hframe hweapon hammo hsound hmisc htext hphrase =>
    have hnone : e.named = [] := by simp [named, hthing, hframe, hweapon, hammo, hsound, hmisc, htext, hphrase]
    cases hnone.symm.trans hnamed

theorem fieldEdit_eq_ok_iff {entity field : String} {make : String → Int → Edit} :
    e.fieldEdit entity field make = .ok x ↔ field ≠ "" ∧ ∃ v, e.value = some v ∧ make field v = x := by
  unfold fieldEdit
  split
  · next hfield => simp [hfield]
  · next hfield =>
    split
    · next hvalue => simp [hvalue]
    · next v hvalue => simp [hfield, hvalue]

theorem thingEdit_eq_ok_iff {n : Int} : e.thingEdit n = .ok x ↔ e.Says (.thing n) x := by
  unfold thingEdit
  constructor
  · intro hedit
    split at hedit
    · cases hedit
    · next hn =>
      have hn : 1 ≤ n := by omega
      split at hedit
      · next hbits => cases hedit; exact .thingBits hn hbits
      · next hbits hextended => cases hedit; exact .thingExtendedBits hn hbits hextended
      · next hbits hextended =>
        obtain ⟨hfield, v, hvalue, rfl⟩ := fieldEdit_eq_ok_iff.1 hedit
        exact .thingField hn hbits hextended hfield hvalue
  · intro hsays
    cases hsays with
    | thingBits hn hbits => rw [if_neg (by omega), hbits]
    | thingExtendedBits hn hbits hextended => rw [if_neg (by omega), hbits, hextended]
    | thingField hn hbits hextended hfield hvalue =>
        rw [if_neg (by omega), hbits, hextended]
        exact fieldEdit_eq_ok_iff.2 ⟨hfield, _, hvalue, rfl⟩

theorem frameEdit_eq_ok_iff {id : Int} : e.frameEdit id = .ok x ↔ e.Says (.frame id) x := by
  unfold frameEdit
  constructor
  · intro hedit
    split at hedit
    · next hpointer => cases hedit; exact .pointer hpointer
    · next hpointer hsource => cases hedit; exact .pointerCopy hpointer hsource
    · next hpointer hsource =>
      obtain ⟨hfield, v, hvalue, rfl⟩ := fieldEdit_eq_ok_iff.1 hedit
      exact .frameField hpointer hsource hfield hvalue
  · intro hsays
    cases hsays with
    | pointer hpointer => rw [hpointer]
    | pointerCopy hpointer hsource => rw [hpointer, hsource]
    | frameField hpointer hsource hfield hvalue =>
        rw [hpointer, hsource]
        exact fieldEdit_eq_ok_iff.2 ⟨hfield, _, hvalue, rfl⟩

theorem weaponEdit_eq_ok_iff {id : Int} : e.weaponEdit id = .ok x ↔ e.Says (.weapon id) x := by
  unfold weaponEdit
  constructor
  · intro hedit
    split at hedit
    · next hbits => cases hedit; exact .weaponBits hbits
    · next hbits =>
      obtain ⟨hfield, v, hvalue, rfl⟩ := fieldEdit_eq_ok_iff.1 hedit
      exact .weaponField hbits hfield hvalue
  · intro hsays
    cases hsays with
    | weaponBits hbits => rw [hbits]
    | weaponField hbits hfield hvalue =>
        rw [hbits]
        exact fieldEdit_eq_ok_iff.2 ⟨hfield, _, hvalue, rfl⟩

/-- A target is read by the rules. -/
theorem editAt_eq_ok_iff : e.editAt t = .ok x ↔ e.Says t x := by
  cases t with
  | thing n => exact thingEdit_eq_ok_iff
  | frame id => exact frameEdit_eq_ok_iff
  | weapon id => exact weaponEdit_eq_ok_iff
  | ammo id =>
      refine fieldEdit_eq_ok_iff.trans ⟨?_, ?_⟩
      · rintro ⟨hfield, v, hvalue, rfl⟩
        exact .ammoField hfield hvalue
      · rintro ⟨⟩
        exact ⟨‹_›, _, ‹_›, rfl⟩
  | sound id =>
      refine fieldEdit_eq_ok_iff.trans ⟨?_, ?_⟩
      · rintro ⟨hfield, v, hvalue, rfl⟩
        exact .soundField hfield hvalue
      · rintro ⟨⟩
        exact ⟨‹_›, _, ‹_›, rfl⟩
  | misc name =>
      refine fieldEdit_eq_ok_iff.trans ⟨?_, ?_⟩
      · rintro ⟨hname, v, hvalue, rfl⟩
        exact .miscField hname hvalue
      · rintro ⟨⟩
        exact ⟨‹_›, _, ‹_›, rfl⟩
  | text old new =>
      show textEdit old new = .ok x ↔ _
      unfold textEdit
      constructor
      · intro hedit
        split at hedit
        · cases hedit
        · next hold => cases hedit; exact .text hold
      · rintro ⟨⟩
        rw [if_neg ‹_›]
  | phrase mnemonic =>
      show e.phraseEdit mnemonic = .ok x ↔ _
      unfold phraseEdit
      constructor
      · intro hedit
        split at hedit
        · cases hedit
        · next hmnemonic => cases hedit; exact .phrase hmnemonic
      · rintro ⟨⟩
        rw [if_neg ‹_›]

/-- An entry is read as the edit that it means. -/
theorem edit_eq_ok_iff : e.edit = .ok x ↔ e.Means x := by
  unfold edit
  constructor
  · intro hedit
    split at hedit
    · next hone =>
      obtain ⟨t, hnamed⟩ := List.length_eq_one_iff.1 (e.targets_eq_length ▸ hone)
      rw [targetEdit_of_named hnamed] at hedit
      exact ⟨t, hnamed, editAt_eq_ok_iff.1 hedit⟩
    · cases hedit
  · rintro ⟨t, hnamed, hsays⟩
    rw [if_pos (by rw [targets_eq_length, hnamed]; rfl), targetEdit_of_named hnamed]
    exact editAt_eq_ok_iff.2 hsays

theorem HasNumber.exists {field : String} (hnumber : e.HasNumber field) : field ≠ "" ∧ ∃ v, e.value = some v :=
  ⟨hnumber.1, Option.isSome_iff_exists.1 hnumber.2⟩

/-- There is something to say about a target exactly if nothing is missing. -/
theorem complete_iff : e.Complete t ↔ ∃ x, e.Says t x := by
  constructor
  · intro hcomplete
    cases t with
    | thing n =>
        obtain ⟨hn, hrest⟩ := hcomplete
        cases hbits : e.bits with
        | some tokens => exact ⟨_, .thingBits hn hbits⟩
        | none =>
            cases hextended : e.extendedBits with
            | some tokens => exact ⟨_, .thingExtendedBits hn hbits hextended⟩
            | none =>
                rw [hbits, hextended] at hrest
                obtain ⟨hfield, v, hvalue⟩ := HasNumber.exists (by simpa using hrest)
                exact ⟨_, .thingField hn hbits hextended hfield hvalue⟩
    | frame id =>
        cases hpointer : e.pointer with
        | some mnemonic => exact ⟨_, .pointer hpointer⟩
        | none =>
            cases hsource : e.pointerFrom with
            | some source => exact ⟨_, .pointerCopy hpointer hsource⟩
            | none =>
                rw [Complete, hpointer, hsource] at hcomplete
                obtain ⟨hfield, v, hvalue⟩ := HasNumber.exists (by simpa using hcomplete)
                exact ⟨_, .frameField hpointer hsource hfield hvalue⟩
    | weapon id =>
        cases hbits : e.bits with
        | some tokens => exact ⟨_, .weaponBits hbits⟩
        | none =>
            rw [Complete, hbits] at hcomplete
            obtain ⟨hfield, v, hvalue⟩ := HasNumber.exists (by simpa using hcomplete)
            exact ⟨_, .weaponField hbits hfield hvalue⟩
    | ammo id =>
        obtain ⟨hfield, v, hvalue⟩ := HasNumber.exists hcomplete
        exact ⟨_, .ammoField hfield hvalue⟩
    | sound id =>
        obtain ⟨hfield, v, hvalue⟩ := HasNumber.exists hcomplete
        exact ⟨_, .soundField hfield hvalue⟩
    | misc name =>
        obtain ⟨hname, v, hvalue⟩ := HasNumber.exists hcomplete
        exact ⟨_, .miscField hname hvalue⟩
    | text old new => exact ⟨_, .text hcomplete⟩
    | phrase mnemonic => exact ⟨_, .phrase hcomplete⟩
  · rintro ⟨x, hsays⟩
    cases hsays <;> simp_all [Complete, HasNumber]

/-- An entry means something exactly if it is well formed. -/
theorem wellFormed_iff : e.WellFormed ↔ ∃ x, e.Means x := by
  unfold WellFormed Means
  simp only [complete_iff]
  constructor
  · rintro ⟨t, hnamed, x, hsays⟩
    exact ⟨x, t, hnamed, hsays⟩
  · rintro ⟨x, t, hnamed, hsays⟩
    exact ⟨t, hnamed, x, hsays⟩

/-- An entry that is refused is not well formed. -/
theorem not_wellFormed_of_edit {cause : EntryError} (hedit : e.edit = .error cause) : ¬ e.WellFormed := by
  rw [wellFormed_iff]
  rintro ⟨x, hmeans⟩
  cases (edit_eq_ok_iff.2 hmeans).symm.trans hedit

/-! ### Writing edits -/

/-- All numbers of an entry are signed 64-bit words. -/
def Fits (e : Entry) : Prop :=
  ∀ n ∈ [e.thing, e.frame, e.weapon, e.ammo, e.sound, e.value, e.pointerFrom].filterMap id, Numeral.fits64 n = true

end Entry

/-- An edit can come from a script: its kind exists, its numbers are signed 64-bit words, a thing can be counted from 1,
a global value has number 0, and fields, texts to replace and mnemonics are not empty. -/
def Edit.Writable : Edit → Prop
  | .thingField id field value =>
      (0 ≤ id ∧ id < Int64.maxValue.toInt) ∧ field ≠ "" ∧ Numeral.fits64 value = true
  | .thingBits id _ | .thingExtendedBits id _ => 0 ≤ id ∧ id < Int64.maxValue.toInt
  | .frameField id field value | .weaponField id field value | .ammoField id field value
  | .soundField id field value => Numeral.fits64 id = true ∧ field ≠ "" ∧ Numeral.fits64 value = true
  | .pointer id _ | .weaponBits id _ => Numeral.fits64 id = true
  | .pointerCopy id source => Numeral.fits64 id = true ∧ Numeral.fits64 source = true
  | .miscField id field value => id = 0 ∧ field ≠ "" ∧ Numeral.fits64 value = true
  | .text old _ => old ≠ ""
  | .phrase mnemonic _ => mnemonic ≠ ""
  | .unknown _ => False

namespace Entry

/-- The entry of an edit. -/
def ofEdit : Edit → Entry
  | .thingField id field value => { thing := some (id + 1), field, value := some value }
  | .thingBits id tokens => { thing := some (id + 1), bits := some tokens }
  | .thingExtendedBits id tokens => { thing := some (id + 1), extendedBits := some tokens }
  | .frameField id field value => { frame := some id, field, value := some value }
  | .pointer id mnemonic => { frame := some id, pointer := some mnemonic }
  | .pointerCopy id source => { frame := some id, pointerFrom := some source }
  | .weaponField id field value => { weapon := some id, field, value := some value }
  | .weaponBits id tokens => { weapon := some id, bits := some tokens }
  | .ammoField id field value => { ammo := some id, field, value := some value }
  | .soundField id field value => { sound := some id, field, value := some value }
  | .miscField _ field value => { misc := some field, value := some value }
  | .text old new => { text := some (old, new) }
  | .phrase mnemonic new => { phrase := some mnemonic, message := new }
  | .unknown _ => {}

theorem fits64_succ {id : Int} (hid : 0 ≤ id ∧ id < Int64.maxValue.toInt) : Numeral.fits64 (id + 1) = true := by
  have hlow : Int64.minValue.toInt ≤ 0 := by decide
  unfold Numeral.fits64
  simp only [Bool.and_eq_true, decide_eq_true_eq]
  omega

/-- The entry of an edit has numbers of the right size. -/
theorem fits_ofEdit {x : Edit} (hx : x.Writable) : (ofEdit x).Fits := by
  cases x <;> simp_all [Edit.Writable, Fits, ofEdit, fits64_succ]

/-- The entry of an edit means the edit. -/
theorem means_ofEdit {x : Edit} (hx : x.Writable) : (ofEdit x).Means x := by
  cases x with
  | thingField id field value =>
      obtain ⟨⟨hid, -⟩, hfield, -⟩ := hx
      have hsays : (ofEdit (.thingField id field value)).Says (.thing (id + 1)) (.thingField (id + 1 - 1) field value) :=
        .thingField (by omega) rfl rfl hfield rfl
      rw [Int.add_sub_cancel] at hsays
      exact ⟨_, rfl, hsays⟩
  | thingBits id tokens =>
      obtain ⟨hid, -⟩ := hx
      have hsays : (ofEdit (.thingBits id tokens)).Says (.thing (id + 1)) (.thingBits (id + 1 - 1) tokens) :=
        .thingBits (by omega) rfl
      rw [Int.add_sub_cancel] at hsays
      exact ⟨_, rfl, hsays⟩
  | thingExtendedBits id tokens =>
      obtain ⟨hid, -⟩ := hx
      have hsays : (ofEdit (.thingExtendedBits id tokens)).Says (.thing (id + 1))
          (.thingExtendedBits (id + 1 - 1) tokens) := .thingExtendedBits (by omega) rfl rfl
      rw [Int.add_sub_cancel] at hsays
      exact ⟨_, rfl, hsays⟩
  | frameField id field value => exact ⟨.frame id, rfl, .frameField rfl rfl hx.2.1 rfl⟩
  | pointer id mnemonic => exact ⟨.frame id, rfl, .pointer rfl⟩
  | pointerCopy id source => exact ⟨.frame id, rfl, .pointerCopy rfl rfl⟩
  | weaponField id field value => exact ⟨.weapon id, rfl, .weaponField rfl hx.2.1 rfl⟩
  | weaponBits id tokens => exact ⟨.weapon id, rfl, .weaponBits rfl⟩
  | ammoField id field value => exact ⟨.ammo id, rfl, .ammoField hx.2.1 rfl⟩
  | soundField id field value => exact ⟨.sound id, rfl, .soundField hx.2.1 rfl⟩
  | miscField id field value =>
      obtain ⟨rfl, hfield, -⟩ := hx
      exact ⟨.misc field, rfl, .miscField hfield rfl⟩
  | text old new => exact ⟨.text old new, rfl, .text hx⟩
  | phrase mnemonic new => exact ⟨.phrase mnemonic, rfl, .phrase hx⟩
  | unknown kind => cases hx

end Entry

/-! ### Lists of entries -/

namespace Script

/-- Entries are read as the edits they mean, one by one. -/
theorem editsFrom_eq_ok_iff {position : Nat} {entries : List Entry} {edits : List Edit} :
    editsFrom position entries = .ok edits ↔ List.Forall₂ Entry.Means entries edits := by
  -- The position is only kept for faults, so it is free in the induction.
  induction entries generalizing position edits with
  | nil => simp [editsFrom, eq_comm]
  | cons e entries ih =>
      rw [editsFrom]
      cases hedit : e.edit with
      | error cause =>
          have hnot : ∀ x, ¬ e.Means x := fun x hmeans => by
            cases (Entry.edit_eq_ok_iff.2 hmeans).symm.trans hedit
          simp [List.forall₂_cons_left_iff, hnot]
      | ok x =>
          have hmeans : ∀ y, e.Means y ↔ y = x := fun y => by
            rw [← Entry.edit_eq_ok_iff, hedit, Except.ok.injEq, eq_comm]
          cases hrest : editsFrom (position + 1) entries with
          | error error =>
              have hnot : ∀ edits, ¬ List.Forall₂ Entry.Means entries edits := fun edits hall => by
                cases (ih.2 hall).symm.trans hrest
              simp [Except.map, List.forall₂_cons_left_iff, hnot]
          | ok rest =>
              simp only [Except.map, List.forall₂_cons_left_iff, hmeans, ← @ih (position + 1), hrest,
                Except.ok.injEq]
              simp [eq_comm]

/-- All entries mean something exactly if all are well formed. -/
theorem exists_means_iff {entries : List Entry} :
    (∃ edits, List.Forall₂ Entry.Means entries edits) ↔ ∀ e ∈ entries, e.WellFormed := by
  induction entries with
  | nil => exact ⟨fun _ => by simp, fun _ => ⟨[], .nil⟩⟩
  | cons e entries ih =>
      rw [List.forall_mem_cons, ← ih, Entry.wellFormed_iff]
      constructor
      · rintro ⟨_, hall⟩
        cases hall with
        | cons hmeans hrest => exact ⟨⟨_, hmeans⟩, _, hrest⟩
      · rintro ⟨⟨x, hmeans⟩, edits, hrest⟩
        exact ⟨x :: edits, .cons hmeans hrest⟩

/-- Reading stops at the first entry that means nothing. -/
theorem exists_first_of_editsFrom {position : Nat} {entries : List Entry} {error : ScriptError}
    (hread : editsFrom position entries = .error error) :
    ∃ before e after cause, entries = before ++ e :: after ∧ (∀ b ∈ before, b.WellFormed) ∧
      e.edit = .error cause ∧ error = .entry (position + before.length) cause := by
  induction entries generalizing position with
  | nil => cases hread
  | cons e entries ih =>
      rw [editsFrom] at hread
      cases hedit : e.edit with
      | error cause =>
          rw [hedit] at hread
          cases hread
          exact ⟨[], e, entries, cause, rfl, by simp, hedit, rfl⟩
      | ok x =>
          rw [hedit] at hread
          cases hrest : editsFrom (position + 1) entries with
          | ok edits =>
              rw [hrest] at hread
              cases hread
          | error error' =>
              rw [hrest] at hread
              cases hread
              obtain ⟨before, bad, after, cause, rfl, hbefore, hbad, rfl⟩ := ih hrest
              -- The entry that was read joins the ones before the bad one, and its place is counted there.
              refine ⟨e :: before, bad, after, cause, rfl, ?_, hbad, ?_⟩
              · rintro b (_ | ⟨_, hb⟩)
                · exact Entry.wellFormed_iff.2 ⟨x, Entry.edit_eq_ok_iff.1 hedit⟩
                · exact hbefore b hb
              · rw [List.length_cons]
                congr 1
                omega

/-- Every list of such edits can be written. -/
theorem exists_entries {edits : List Edit} (hedits : ∀ x ∈ edits, x.Writable) :
    ∃ entries : List Entry, (∀ e ∈ entries, e.Fits) ∧ List.Forall₂ Entry.Means entries edits := by
  refine ⟨edits.map Entry.ofEdit, ?_, ?_⟩
  · simp only [List.forall_mem_map]
    exact fun x hx => Entry.fits_ofEdit (hedits x hx)
  · rw [List.forall₂_map_left_iff, List.forall₂_same]
    exact fun x hx => Entry.means_ofEdit (hedits x hx)

/-! ### Documents -/

/-- The version of a document can be used: if it is named, it is not negative. -/
def VersionFits (d : Document) : Prop := ∀ n, d.version = some n → 0 ≤ n

theorem versionFits_iff {d : Document} : VersionFits d ↔ 0 ≤ d.version.getD defaultVersion := by
  unfold VersionFits
  cases d.version with
  | none => simp [defaultVersion]
  | some n => simp

theorem ofDocument_of_versionFits {d : Document} (hversion : VersionFits d) :
    ofDocument d = (editsFrom 1 d.entries).map fun edits =>
      { version := d.version.getD defaultVersion, hasVersion := d.version.isSome, edits } := by
  unfold ofDocument
  dsimp only
  rw [if_neg (by have := versionFits_iff.1 hversion; omega)]

theorem ofDocument_of_not_versionFits {d : Document} (hversion : ¬ VersionFits d) :
    ofDocument d = .error (.negativeVersion (d.version.getD defaultVersion)) := by
  unfold ofDocument
  dsimp only
  rw [if_pos (by have := versionFits_iff.not.1 hversion; omega)]

theorem code_fault (error : ScriptError) : error.fault.code = Code.invalidArgument := by
  cases error <;> rfl

theorem notes_fault_entry (k : Nat) (cause : EntryError) :
    (ScriptError.entry k cause).fault.notes.get? "edit" = some (.number k) :=
  SortedMap.get?_insert_self ..

/-- A document is read as the script that it means. -/
theorem ofDocument_eq_ok_iff {d : Document} {script : Script} :
    ofDocument d = .ok script ↔
      VersionFits d ∧ script.version = d.version.getD defaultVersion ∧ script.hasVersion = d.version.isSome ∧
        List.Forall₂ Entry.Means d.entries script.edits := by
  by_cases hversion : VersionFits d
  · rw [ofDocument_of_versionFits hversion, ← @editsFrom_eq_ok_iff 1]
    obtain ⟨version, hasVersion, edits⟩ := script
    cases editsFrom 1 d.entries with
    | error error => simp [Except.map]
    | ok edits' => simp [Except.map, hversion, eq_comm]
  · rw [ofDocument_of_not_versionFits hversion]
    simp [hversion]

/-- A document that is refused has a negative version, or a first entry that means nothing. -/
theorem exists_first_of_ofDocument {d : Document} {error : ScriptError} (hread : ofDocument d = .error error) :
    (∃ n, d.version = some n ∧ n < 0 ∧ error = .negativeVersion n) ∨
      VersionFits d ∧ ∃ before e after cause, d.entries = before ++ e :: after ∧ (∀ b ∈ before, b.WellFormed) ∧
        e.edit = .error cause ∧ error = .entry (before.length + 1) cause := by
  by_cases hversion : VersionFits d
  · rw [ofDocument_of_versionFits hversion] at hread
    cases hentries : editsFrom 1 d.entries with
    | ok edits =>
        rw [hentries] at hread
        cases hread
    | error error' =>
        rw [hentries] at hread
        cases hread
        obtain ⟨before, e, after, cause, hsplit, hbefore, hedit, rfl⟩ := exists_first_of_editsFrom hentries
        exact .inr ⟨hversion, before, e, after, cause, hsplit, hbefore, hedit, by rw [Nat.add_comm]⟩
  · rw [ofDocument_of_not_versionFits hversion] at hread
    cases hread
    unfold VersionFits at hversion
    cases hnumber : d.version with
    | none => simp [hnumber] at hversion
    | some n => exact .inl ⟨n, rfl, by simpa [hnumber] using hversion, rfl⟩

/-- Scripts are read entry by entry.  A document is read as a script exactly if the script has its version, or the
default, and an edit for each entry in order, which is the one that the entry means; there is such a script exactly if
the version is not negative and all entries are well formed.  A document that is refused is an invalid argument; if its
version is not to blame, the fault notes the position of the first entry that is not well formed, counted from 1.
Every list of edits that can be written is read from some list of entries. -/
theorem ofDocument_translates (d : Document) :
    (∀ script, ofDocument d = .ok script ↔
      VersionFits d ∧ script.version = d.version.getD 21 ∧ script.hasVersion = d.version.isSome ∧
        List.Forall₂ Entry.Means d.entries script.edits) ∧
    ((∃ script, ofDocument d = .ok script) ↔ VersionFits d ∧ ∀ e ∈ d.entries, e.WellFormed) ∧
    (∀ error, ofDocument d = .error error →
      error.fault.code = Code.invalidArgument ∧
      ((∃ n, d.version = some n ∧ n < 0 ∧ error = .negativeVersion n) ∨
        VersionFits d ∧ ∃ before e after, d.entries = before ++ e :: after ∧ (∀ b ∈ before, b.WellFormed) ∧
          ¬ e.WellFormed ∧ error.fault.notes.get? "edit" = some (.number (before.length + 1 : Nat)))) ∧
    ∀ edits : List Edit, (∀ x ∈ edits, x.Writable) →
      ∃ entries : List Entry, (∀ e ∈ entries, e.Fits) ∧
        ofDocument { version := none, entries } = .ok { version := 21, hasVersion := false, edits } := by
  refine ⟨fun script => ofDocument_eq_ok_iff, ?_, fun error hread => ⟨code_fault error, ?_⟩, fun edits hedits => ?_⟩
  · simp only [ofDocument_eq_ok_iff, ← exists_means_iff]
    constructor
    · rintro ⟨script, hversion, -, -, hedits⟩
      exact ⟨hversion, _, hedits⟩
    · rintro ⟨hversion, edits, hedits⟩
      exact ⟨⟨_, _, edits⟩, hversion, rfl, rfl, hedits⟩
  · refine (exists_first_of_ofDocument hread).imp_right ?_
    rintro ⟨hversion, before, e, after, cause, hsplit, hbefore, hedit, rfl⟩
    exact ⟨hversion, before, e, after, hsplit, hbefore, Entry.not_wellFormed_of_edit hedit, notes_fault_entry _ cause⟩
  · obtain ⟨entries, hfits, hmeans⟩ := exists_entries hedits
    exact ⟨entries, hfits, ofDocument_eq_ok_iff.2 ⟨by simp [VersionFits], rfl, rfl, hmeans⟩⟩

/-- An edit of each kind, with the largest number of a thing and empty texts where they are allowed. -/
theorem ofDocument_translates_kinds :
    ∃ entries : List Entry, (∀ e ∈ entries, e.Fits) ∧
      ofDocument { version := none, entries } = .ok { version := 21, hasVersion := false, edits := [
        .thingField 9223372036854775806 "Speed" (-9223372036854775808), .thingBits 0 "", .thingExtendedBits 0 "BOSS",
        .frameField (-1) "Duration" 4, .pointer 454 "", .pointerCopy 455 454, .weaponField 1 "Ammo per shot" 2,
        .weaponBits 1 "SILENT", .ammoField 0 "Max ammo" 400, .soundField 1 "Value" 32,
        .miscField 0 "Initial Bullets" 75, .text "pistol" "", .phrase "GOTCLIP" ""] } := by
  refine (ofDocument_translates { }).2.2.2 _ ?_
  simp only [List.forall_mem_cons, Edit.Writable, List.not_mem_nil, false_imp_iff, implies_true]
  decide

-- The first of two wrong entries is reported.
example : ofDocument { entries := [{ misc := some "Initial Health", value := some 1 }, { thing := some 0 }, { }] } =
    .error (.entry 2 (.thingNumber 0)) := by decide

end Script
end DoomPatch
