import DoomPatch.Proofs.Session.Commute

/-!
# What an edit leaves alone

An edit that is carried out writes to the targets it names, and all else reads as before: other records, and the other
fields of the same record.  Two global values are kept in a record too, and are written there with it.  A record that
did not exist starts out neutral.  Users that are touched on the way read as before.

* `Target`, `Edit.targets` — what an edit names.
* `SameReads` — two sessions read the same; `SameReads.touchThings`, `SameReads.touchUsers` — touching is not read.
* `Rewritten` — of a record, a field that is named is written, and a record that is not named is kept.
* `Footprint` — that of all records, global values, names and messages of a session.
* `Footprint.of_carry` — one change has the footprint of the targets it writes to.
* `footprint_of_edit` — so has an edit that is carried out; one that is refused is not read.
-/

namespace DoomPatch

/-! ### Places -/

/-- A place that an edit can name: a field, the code pointer of a frame, the name of a sound or a sprite, or a
message. -/
inductive Target where
  | field (c : Cell)
  | action (frame : Int)
  | soundName (id : Int)
  | sprite (id : Int)
  | text (ref : String)
deriving DecidableEq

/-- The targets that an edit names, with the records that also keep a global value. -/
def Edit.targets : Edit → List Target
  | .thingBits id _ => [.field (.thing id .flags)]
  | .thingExtendedBits id _ => [.field (.thing id .mbf21)]
  | .weaponBits id _ => [.field (.weapon id .flags)]
  | .pointer id _ | .pointerCopy id _ => [.action id]
  | .text old new =>
    match Session.renamedSprite? old new with
    | some id => [.sprite id]
    | none =>
      match Session.renamedSound? old new with
      | some id => [.soundName id]
      | none => (Baseline.phraseRef? old).toList.map .text
  | .phrase mnemonic _ => (Baseline.mnemonicRef? mnemonic).toList.map .text
  | e => e.cells.map .field

/-! ### Records -/

/-- One record is another with a number written to a field, which no other field shows, nor what is beside the
fields. -/
def FieldTable.Rewrites {φ ρ σ : Type} (table : FieldTable φ ρ) (beside : ρ → σ) (f : φ) (r r' : ρ) : Prop :=
  (∃ v, r' = table.set f v r) ∧ (∀ g, g ≠ f → table.get g r' = table.get g r) ∧ beside r' = beside r

section
variable {φ ρ σ : Type} {table : FieldTable φ ρ} {beside : ρ → σ}

theorem FieldTable.Apart.rewrites (hapart : table.Apart) (hbeside : ∀ f v r, beside (table.set f v r) = beside r)
    (f : φ) (v : Int) (r : ρ) : table.Rewrites beside f r (table.set f v r) :=
  ⟨⟨v, rfl⟩, fun _ hne => hapart hne v r, hbeside f v r⟩

theorem FieldTable.Apart.rewrites_store (hapart : table.Apart)
    (hbeside : ∀ f v r, beside (table.set f v r) = beside r) (f : φ) (v : Int) (r : ρ) :
    table.Rewrites beside f r (table.store f v r) := by
  unfold FieldTable.store
  split
  · exact hapart.rewrites hbeside f v r
  · exact hapart.rewrites hbeside f _ r

end

/-- One thing is another with a field written.  No field holds the name, or which player it is. -/
def Thing.Rewrites : ThingField → Thing → Thing → Prop := ThingField.table.Rewrites fun t => (t.name, t.player)

/-- One weapon is another with a field written. -/
def Weapon.Rewrites : WeaponField → Weapon → Weapon → Prop := WeaponField.table.Rewrites (·.name)

/-- One type of ammunition is another with a field written. -/
def Ammo.Rewrites : AmmoField → Ammo → Ammo → Prop := AmmoField.table.Rewrites (·.name)

/-- One frame is another with a field written, or with another code pointer. -/
def Frame.Rewrites : Option FrameField → Frame → Frame → Prop
  | some f, r, r' => FrameField.table.Rewrites (·.action) f r r'
  | none, r, r' => ∃ action, r' = { r with action }

/-- One sound is another with a field written, or with another name. -/
def Sound.Rewrites : Option SoundField → Sound → Sound → Prop
  | some f, r, r' => SoundField.table.Rewrites (·.name) f r r'
  | none, r, r' => ∃ name, r' = { r with name }

/-- Some global values are others with one written.  There is nothing beside them. -/
def Misc.Rewrites : MiscField → Misc → Misc → Prop := MiscField.table.Rewrites fun _ => ()

theorem ThingField.beside_set (f : ThingField) (v : Int) (t : Thing) :
    ((f.set v t).name, (f.set v t).player) = (t.name, t.player) := by
  cases f <;> rfl

theorem WeaponField.beside_set (f : WeaponField) (v : Int) (w : Weapon) : (f.set v w).name = w.name := by
  cases f <;> rfl

theorem AmmoField.beside_set (f : AmmoField) (v : Int) (a : Ammo) : (f.set v a).name = a.name := by
  cases f <;> rfl

theorem FrameField.beside_set (f : FrameField) (v : Int) (r : Frame) : (f.set v r).action = r.action := by
  cases f <;> rfl

theorem SoundField.beside_set (f : SoundField) (v : Int) (r : Sound) : (f.set v r).name = r.name := by
  cases f <;> rfl

/-- What becomes of a record: a field that is named is written, in the record there was or else in `start`, and a
record of which no field is named stays as it is. -/
structure Rewritten {φ ρ : Type} (rewrites : φ → ρ → ρ → Prop) (named : φ → Prop) (start before after : Option ρ) :
    Prop where
  written : ∀ f, named f → ∃ r r', before.or start = some r ∧ after = some r' ∧ rewrites f r r'
  kept : (∀ f, ¬ named f) → after = before

namespace Rewritten

variable {φ ρ : Type} {rewrites : φ → ρ → ρ → Prop} {named : φ → Prop} {start before after : Option ρ}

theorem same (hnamed : ∀ f, ¬ named f) (hsame : after = before) : Rewritten rewrites named start before after :=
  ⟨fun f hf => absurd hf (hnamed f), fun _ => hsame⟩

theorem one {f : φ} {r r' : ρ} (hnamed : ∀ g, named g → g = f) (hf : named f) (hbefore : before.or start = some r)
    (hafter : after = some r') (hr : rewrites f r r') : Rewritten rewrites named start before after where
  written := by
    intro g hg
    rw [hnamed g hg]
    exact ⟨r, r', hbefore, hafter, hr⟩
  kept := fun hnone => absurd hf (hnone f)

theorem of_iff {named' : φ → Prop} (h : Rewritten rewrites named start before after) (hiff : ∀ f, named' f ↔ named f) :
    Rewritten rewrites named' start before after where
  written f hf := h.written f ((hiff f).1 hf)
  kept hnone := h.kept fun f hf => hnone f ((hiff f).2 hf)

end Rewritten

/-- A change writes to the targets of a list. -/
def Change.WritesTo (targets : List Target) : Change → Prop
  | .warn _ => False
  | .thing id _ alter => ∃ f, (∀ t, Thing.Rewrites f t (alter t)) ∧ targets = [.field (.thing id f)]
  | .frame id _ alter =>
    ∃ slot, (∀ r, Frame.Rewrites slot r (alter r)) ∧ targets = [slot.elim (.action id) fun f => .field (.frame id f)]
  | .weapon id _ alter => ∃ f, (∀ w, Weapon.Rewrites f w (alter w)) ∧ targets = [.field (.weapon id f)]
  | .ammo id _ alter => ∃ f, (∀ a, Ammo.Rewrites f a (alter a)) ∧ targets = [.field (.ammo id f)]
  | .misc f _ => targets = f.cells.map .field
  | .sound id _ alter =>
    ∃ slot, (∀ r, Sound.Rewrites slot r (alter r)) ∧ targets = [slot.elim (.soundName id) fun f => .field (.sound id f)]
  | .sprite id _ => targets = [.sprite id]
  | .text ref _ => targets = [.text ref]

namespace Session

variable {s s' u u' : Session} {targets : List Target}

/-! ### Reading -/

/-- Two sessions read the same. -/
structure SameReads (s s' : Session) : Prop where
  things : ∀ id, s'.thing? id = s.thing? id
  frames : ∀ id, s'.frame? id = s.frame? id
  weapons : ∀ id, s'.weapon? id = s.weapon? id
  ammo : ∀ id, s'.ammo? id = s.ammo? id
  sounds : ∀ id, s'.sound? id = s.sound? id
  misc : s'.misc = s.misc
  sprites : ∀ id, s'.spriteName id = s.spriteName id
  texts : s'.texts = s.texts

namespace SameReads

theorem refl (s : Session) : SameReads s s :=
  ⟨fun _ => rfl, fun _ => rfl, fun _ => rfl, fun _ => rfl, fun _ => rfl, rfl, fun _ => rfl, rfl⟩

theorem trans (h : SameReads s u) (h' : SameReads u s') : SameReads s s' where
  things id := (h'.things id).trans (h.things id)
  frames id := (h'.frames id).trans (h.frames id)
  weapons id := (h'.weapons id).trans (h.weapons id)
  ammo id := (h'.ammo id).trans (h.ammo id)
  sounds id := (h'.sounds id).trans (h.sounds id)
  misc := h'.misc.trans h.misc
  sprites id := (h'.sprites id).trans (h.sprites id)
  texts := h'.texts.trans h.texts

/-- Warnings are not read. -/
theorem warnings (s : Session) (ws : List Warning) : SameReads s { s with warnings := ws } :=
  ⟨fun _ => rfl, fun _ => rfl, fun _ => rfl, fun _ => rfl, fun _ => rfl, rfl, fun _ => rfl, rfl⟩

/-- Marked things and weapons that read as before make a session that reads as before. -/
theorem of_marks (hmarks : Marks s s') (hthings : ∀ id, s'.thing? id = s.thing? id)
    (hweapons : ∀ id, s'.weapon? id = s.weapon? id) : SameReads s s' := by
  have heq := hmarks.eq
  refine ⟨hthings, ?_, hweapons, ?_, ?_, ?_, ?_, ?_⟩
  · exact fun id => by rw [heq]; rfl
  · exact fun id => by rw [heq]; rfl
  · exact fun id => by rw [heq]; rfl
  · rw [heq]
  · exact fun id => by rw [heq]; rfl
  · rw [heq]

theorem touchThings {ids : List Int} (hexist : ∀ id ∈ ids, (s.thing? id).isSome) :
    SameReads s (s.touchThings ids) := by
  refine of_marks (Marks.touchThings s ids) (thing?_touchThings hexist) ?_
  intro id
  unfold weapon?
  rw [weapons_touchThings]

theorem touchUsers (s : Session) (uses : List Int → Bool) : SameReads s (s.touchUsers uses) :=
  of_marks (Marks.touchUsers s uses) (thing?_touchUsers s uses) (weapon?_touchUsers s uses)

theorem touchAmmoUsers (s : Session) (id : Int) : SameReads s (s.touchThings (ammoUsers id)) :=
  touchThings fun _ hid => isSome_thing?_of_baseline (isSome_baseline_of_mem_ammoUsers hid)

theorem touchMiscThings (s : Session) (field : MiscField) : SameReads s (s.touchThings (miscThings field)) :=
  touchThings fun _ hid => isSome_thing?_of_baseline (isSome_baseline_of_mem_miscThings hid)

theorem touchMonsters (s : Session) : SameReads s (s.touchThings s.monsters) := by
  refine touchThings fun id hid => ?_
  obtain ⟨-, t, hthing, -⟩ := mem_monsters.1 hid
  rw [hthing]
  rfl

end SameReads

/-! ### Opening is reading -/

theorem or_of_opened {ρ : Type} {base : Int → Except RangeError ρ} {m : SortedMap Int ρ} {id : Int}
    {before : Option ρ} {check : Except RangeError Unit} {start r : ρ}
    (hbase : base id = check.map fun _ => before.getD start) (hopen : Overlay.opened base m id = .ok r) :
    ((m.get? id).or before).or (some start) = some r := by
  unfold Overlay.opened at hopen
  cases hget : m.get? id with
  | some r' =>
      rw [hget] at hopen
      cases hopen
      rfl
  | none =>
      rw [hget] at hopen
      dsimp only at hopen
      rw [hbase] at hopen
      cases check with
      | error err => cases hopen
      | ok u =>
          cases hopen
          cases before <;> rfl

theorem thing?_or_of_openThing {id : Int} {t : Thing} (hopen : s.openThing id = .ok t) :
    (s.thing? id).or (some (Thing.neutral (Baseline.extraThingName id))) = some t :=
  or_of_opened rfl (s.openThing_eq id ▸ hopen)

theorem frame?_or_of_openFrame {id : Int} {f : Frame} (hopen : s.openFrame id = .ok f) :
    (s.frame? id).or (some (Frame.neutral id)) = some f :=
  or_of_opened rfl (s.openFrame_eq id ▸ hopen)

theorem sound?_or_of_openSound {id : Int} {snd : Sound} (hopen : s.openSound id = .ok snd) :
    (s.sound? id).or (some { name := Baseline.extraSoundName id, priority := 64 }) = some snd :=
  or_of_opened rfl (s.openSound_eq id ▸ hopen)

theorem weapon?_of_openWeapon {id : Int} {w : Weapon} (hopen : s.openWeapon id = .ok w) : s.weapon? id = some w := by
  unfold openWeapon at hopen
  cases hweapon : s.weapon? id with
  | none =>
      rw [hweapon] at hopen
      cases hopen
  | some w' =>
      rw [hweapon] at hopen
      cases hopen
      rfl

theorem isSome_weapon?_of_baseline {id : Int} (hbase : (Baseline.weapon? id).isSome) : (s.weapon? id).isSome := by
  unfold weapon?
  rw [Option.isSome_or, hbase, Bool.or_true]

theorem sound?_putSound (s : Session) (id i : Int) (snd : Sound) :
    (s.putSound id snd).sound? i = if i = id then some snd else s.sound? i := by
  unfold sound? putSound
  rw [SortedMap.get?_insert]
  split <;> rfl

/-! ### Footprints -/

/-- A session reads like another but for the targets of a list, and there a number, a name or a message was written. -/
structure Footprint (s s' : Session) (targets : List Target) : Prop where
  things : ∀ id, Rewritten Thing.Rewrites (fun f => .field (.thing id f) ∈ targets)
    (some (Thing.neutral (Baseline.extraThingName id))) (s.thing? id) (s'.thing? id)
  frames : ∀ id, Rewritten Frame.Rewrites (fun | some f => .field (.frame id f) ∈ targets | none => .action id ∈ targets)
    (some (Frame.neutral id)) (s.frame? id) (s'.frame? id)
  weapons : ∀ id, Rewritten Weapon.Rewrites (fun f => .field (.weapon id f) ∈ targets) none (s.weapon? id)
    (s'.weapon? id)
  ammo : ∀ id, Rewritten Ammo.Rewrites (fun f => .field (.ammo id f) ∈ targets) none (s.ammo? id)
    (s'.ammo? id)
  sounds : ∀ id, Rewritten Sound.Rewrites
    (fun | some f => .field (.sound id f) ∈ targets | none => .soundName id ∈ targets)
    (some { name := Baseline.extraSoundName id, priority := 64 }) (s.sound? id) (s'.sound? id)
  misc : Rewritten Misc.Rewrites (fun f => .field (.misc f) ∈ targets) none (some s.misc) (some s'.misc)
  sprites : ∀ id, .sprite id ∉ targets → s'.spriteName id = s.spriteName id
  texts : ∀ ref, .text ref ∉ targets → s'.texts.get? ref = s.texts.get? ref

namespace Footprint

/-- What is read the same before and after makes no difference. -/
theorem congr (hbefore : SameReads s u) (h : Footprint u u' targets) (hafter : SameReads u' s') :
    Footprint s s' targets where
  things id := by
    rw [hafter.things, ← hbefore.things]
    exact h.things id
  frames id := by
    rw [hafter.frames, ← hbefore.frames]
    exact h.frames id
  weapons id := by
    rw [hafter.weapons, ← hbefore.weapons]
    exact h.weapons id
  ammo id := by
    rw [hafter.ammo, ← hbefore.ammo]
    exact h.ammo id
  sounds id := by
    rw [hafter.sounds, ← hbefore.sounds]
    exact h.sounds id
  misc := by
    rw [hafter.misc, ← hbefore.misc]
    exact h.misc
  sprites id hid := by
    rw [hafter.sprites, ← hbefore.sprites]
    exact h.sprites id hid
  texts ref href := by
    rw [hafter.texts, ← hbefore.texts]
    exact h.texts ref href

theorem putThing {id : Int} {t t' : Thing} {f : ThingField} (hopen : s.openThing id = .ok t)
    (hr : Thing.Rewrites f t t') : Footprint s (s.putThing id t') [.field (.thing id f)] where
  things i := by
    rw [thing?_putThing]
    by_cases heq : i = id
    · subst heq
      exact .one (by simp) (by simp) (thing?_or_of_openThing hopen) (if_pos rfl) hr
    · exact .same (by simp [heq]) (if_neg heq)
  frames i := .same (by rintro (_ | g) <;> simp) rfl
  weapons i := .same (by simp) rfl
  ammo i := .same (by simp) rfl
  sounds i := .same (by rintro (_ | g) <;> simp) rfl
  misc := .same (by simp) rfl
  sprites i hi := rfl
  texts ref href := rfl

theorem putFrame {id : Int} {r r' : Frame} {slot : Option FrameField} (hopen : s.openFrame id = .ok r)
    (hr : Frame.Rewrites slot r r') :
    Footprint s (s.putFrame id r') [slot.elim (.action id) fun f => .field (.frame id f)] where
  things i := .same (by cases slot <;> simp) rfl
  frames i := by
    rw [frame?_putFrame]
    by_cases heq : i = id
    · subst heq
      refine .one (f := slot) ?_ ?_ (frame?_or_of_openFrame hopen) (if_pos rfl) hr
      · rintro (_ | g) <;> cases slot <;> simp
      · cases slot <;> simp
    · refine .same ?_ (if_neg heq)
      rintro (_ | g) <;> cases slot <;> simp [heq]
  weapons i := .same (by cases slot <;> simp) rfl
  ammo i := .same (by cases slot <;> simp) rfl
  sounds i := .same (by rintro (_ | g) <;> cases slot <;> simp) rfl
  misc := .same (by cases slot <;> simp) rfl
  sprites i hi := rfl
  texts ref href := rfl

theorem putWeapon {id : Int} {w w' : Weapon} {f : WeaponField} (hopen : s.openWeapon id = .ok w)
    (hr : Weapon.Rewrites f w w') : Footprint s (s.putWeapon id w') [.field (.weapon id f)] where
  things i := .same (by simp) rfl
  frames i := .same (by rintro (_ | g) <;> simp) rfl
  weapons i := by
    rw [weapon?_putWeapon]
    by_cases heq : i = id
    · subst heq
      exact .one (by simp) (by simp) (by rw [weapon?_of_openWeapon hopen]; rfl) (if_pos rfl) hr
    · exact .same (by simp [heq]) (if_neg heq)
  ammo i := .same (by simp) rfl
  sounds i := .same (by rintro (_ | g) <;> simp) rfl
  misc := .same (by simp) rfl
  sprites i hi := rfl
  texts ref href := rfl

theorem putAmmo {id : Int} {a a' : Ammo} {f : AmmoField} (hopen : s.openAmmo id = .ok a)
    (hr : Ammo.Rewrites f a a') : Footprint s (s.putAmmo id a') [.field (.ammo id f)] where
  things i := .same (by simp) rfl
  frames i := .same (by rintro (_ | g) <;> simp) rfl
  weapons i := .same (by simp) rfl
  ammo i := by
    rw [ammo?_putAmmo]
    by_cases heq : i = id
    · subst heq
      exact .one (by simp) (by simp) (by rw [ammo?_of_openAmmo hopen]; rfl) (if_pos rfl) hr
    · exact .same (by simp [heq]) (if_neg heq)
  sounds i := .same (by rintro (_ | g) <;> simp) rfl
  misc := .same (by simp) rfl
  sprites i hi := rfl
  texts ref href := rfl

theorem putSound {id : Int} {r r' : Sound} {slot : Option SoundField} (hopen : s.openSound id = .ok r)
    (hr : Sound.Rewrites slot r r') :
    Footprint s (s.putSound id r') [slot.elim (.soundName id) fun f => .field (.sound id f)] where
  things i := .same (by cases slot <;> simp) rfl
  frames i := .same (by rintro (_ | g) <;> cases slot <;> simp) rfl
  weapons i := .same (by cases slot <;> simp) rfl
  ammo i := .same (by cases slot <;> simp) rfl
  sounds i := by
    rw [sound?_putSound]
    by_cases heq : i = id
    · subst heq
      refine .one (f := slot) ?_ ?_ (sound?_or_of_openSound hopen) (if_pos rfl) hr
      · rintro (_ | g) <;> cases slot <;> simp
      · cases slot <;> simp
    · refine .same ?_ (if_neg heq)
      rintro (_ | g) <;> cases slot <;> simp [heq]
  misc := .same (by cases slot <;> simp) rfl
  sprites i hi := rfl
  texts ref href := rfl

theorem of_sameReads (h : SameReads s s') : Footprint s s' [] where
  things i := .same (by simp) (h.things i)
  frames i := .same (by rintro (_ | g) <;> simp) (h.frames i)
  weapons i := .same (by simp) (h.weapons i)
  ammo i := .same (by simp) (h.ammo i)
  sounds i := .same (by rintro (_ | g) <;> simp) (h.sounds i)
  misc := .same (by simp) (congrArg some h.misc)
  sprites i _ := h.sprites i
  texts ref _ := by rw [h.texts]

/-- A global value that is written in front of all else is one place more. -/
theorem cons_misc {f : MiscField} {m : Misc} (hr : Misc.Rewrites f s.misc m)
    (h : Footprint { s with misc := m, miscModified := true } s' targets) (htargets : ∀ g, .field (.misc g) ∉ targets) :
    Footprint s s' (.field (.misc f) :: targets) where
  things i := (h.things i).of_iff (by simp)
  frames i := (h.frames i).of_iff (by rintro (_ | g) <;> simp)
  weapons i := (h.weapons i).of_iff (by simp)
  ammo i := (h.ammo i).of_iff (by simp)
  sounds i := (h.sounds i).of_iff (by rintro (_ | g) <;> simp)
  misc := .one (by simp [htargets]) (by simp) rfl (h.misc.kept htargets) hr
  sprites i hi := h.sprites i fun hmem => hi (List.mem_cons_of_mem _ hmem)
  texts ref href := h.texts ref fun hmem => href (List.mem_cons_of_mem _ hmem)

theorem rename (s : Session) (id : Int) (name : String) :
    Footprint s { s with sprites := s.sprites.insert id name } [.sprite id] where
  things i := .same (by simp) rfl
  frames i := .same (by rintro (_ | g) <;> simp) rfl
  weapons i := .same (by simp) rfl
  ammo i := .same (by simp) rfl
  sounds i := .same (by rintro (_ | g) <;> simp) rfl
  misc := .same (by simp) rfl
  sprites i hi := by
    unfold spriteName
    rw [SortedMap.get?_insert_of_ne _ (by simpa using hi)]
  texts ref href := rfl

theorem setText (s : Session) (ref value : String) : Footprint s (s.setText ref value) [.text ref] where
  things i := .same (by simp) rfl
  frames i := .same (by rintro (_ | g) <;> simp) rfl
  weapons i := .same (by simp) rfl
  ammo i := .same (by simp) rfl
  sounds i := .same (by rintro (_ | g) <;> simp) rfl
  misc := .same (by simp) rfl
  sprites i hi := rfl
  texts r hr := SortedMap.get?_insert_of_ne _ (by simpa using hr) _

/-- The users of a global value read as before, but for the two records that keep it too. -/
theorem touchMiscUsers (s : Session) (field : MiscField) (value : Int) :
    Footprint s (s.touchMiscUsers field value) ((field.cells.erase (.misc field)).map .field) := by
  have htouched := SameReads.touchMiscThings s field
  cases field with
  | initialHealth =>
      obtain ⟨t, hthing⟩ : ∃ t, (s.touchThings (miscThings .initialHealth)).thing? player = some t :=
        Option.isSome_iff_exists.1 (isSome_thing?_of_baseline (Baseline.isSome_thing? (by decide)))
      have hopen := openThing_of_thing? hthing
      unfold Session.touchMiscUsers
      dsimp only
      rw [hopen]
      exact congr htouched (putThing hopen (ThingField.apart.rewrites ThingField.beside_set .health value t)) (.refl _)
  | bfgCells =>
      obtain ⟨w, hweapon⟩ : ∃ w, (s.touchThings (miscThings .bfgCells)).weapon? bfg = some w :=
        Option.isSome_iff_exists.1 (isSome_weapon?_of_baseline (Baseline.isSome_weapon? (by decide)))
      have hopen := openWeapon_of_weapon? hweapon
      unfold Session.touchMiscUsers
      dsimp only
      rw [hopen]
      exact congr htouched (putWeapon hopen (WeaponField.apart.rewrites WeaponField.beside_set .perShot value w)) (.refl _)
  | infight =>
      unfold Session.touchMiscUsers
      dsimp only
      split
      · exact of_sameReads (htouched.trans (.touchMonsters _))
      · exact of_sameReads htouched
  | _ => exact of_sameReads htouched

end Footprint

/-! ### One change -/

/-- A change that is carried out has the footprint of the targets it writes to. -/
theorem Footprint.of_carry {c : Change} (hadmits : s.admits c = true) (hwrites : c.WritesTo targets) :
    Footprint s (s.carry c) targets := by
  cases c with
  | warn w => cases hadmits
  | thing id field alter =>
      obtain ⟨t, hopen⟩ := exists_ok_of_isOk hadmits
      obtain ⟨f, hr, rfl⟩ := hwrites
      rw [carry, hopen]
      exact putThing hopen (hr t)
  | frame id field alter =>
      obtain ⟨r, hopen⟩ := exists_ok_of_isOk hadmits
      obtain ⟨slot, hr, rfl⟩ := hwrites
      rw [carry, hopen]
      exact congr (.refl s) (putFrame hopen (hr r)) (.touchUsers _ _)
  | weapon id field alter =>
      obtain ⟨w, hopen⟩ := exists_ok_of_isOk hadmits
      obtain ⟨f, hr, rfl⟩ := hwrites
      rw [carry, hopen]
      exact putWeapon hopen (hr w)
  | ammo id field alter =>
      obtain ⟨a, hopen⟩ := exists_ok_of_isOk hadmits
      obtain ⟨f, hr, rfl⟩ := hwrites
      rw [carry, hopen]
      exact congr (.refl s) (putAmmo hopen (hr a)) (.touchAmmoUsers _ id)
  | misc f value =>
      obtain rfl : targets = f.cells.map .field := hwrites
      have hcells : f.cells.map Target.field = .field (.misc f) :: (f.cells.erase (.misc f)).map .field := by
        cases f <;> rfl
      rw [hcells]
      refine cons_misc (MiscField.apart.rewrites_store (fun _ _ _ => rfl) f value s.misc) (touchMiscUsers _ f value) ?_
      cases f <;> simp [MiscField.cells]
  | sound id field alter =>
      obtain ⟨r, hopen⟩ := exists_ok_of_isOk hadmits
      obtain ⟨slot, hr, rfl⟩ := hwrites
      rw [carry, hopen]
      exact putSound hopen (hr r)
  | sprite id name =>
      obtain rfl : targets = [.sprite id] := hwrites
      exact congr (.refl s) (rename s id name) (.touchUsers _ _)
  | text ref value =>
      obtain rfl : targets = [.text ref] := hwrites
      exact setText s ref value

/-! ### One edit -/

/-- A word that is written to a flag field is kept as it is. -/
theorem low32_toNat (word : UInt32) : Word.low32 (word.toNat : Int) = word := by
  apply UInt32.toNat_inj.1
  have hlt := word.toNat_lt
  simp [Word.low32, UInt32.ofInt]
  omega

/-- The change that an edit comes down to writes to the targets that the edit names. -/
theorem changes_writeTo (s : Session) (e : Edit) : Decides (Change.WritesTo e.targets) (s.changes e) := by
  cases e with
  | thingField id field value =>
      refine fieldChange_decides fun f hfind => ⟨f, ThingField.apart.rewrites_store ThingField.beside_set f value, ?_⟩
      simp [Edit.targets, Edit.cells, hfind]
  | frameField id field value =>
      refine fieldChange_decides fun f hfind => ⟨some f, FrameField.apart.rewrites_store FrameField.beside_set f value, ?_⟩
      simp [Edit.targets, Edit.cells, hfind]
  | weaponField id field value =>
      refine fieldChange_decides fun f hfind => ⟨f, WeaponField.apart.rewrites_store WeaponField.beside_set f value, ?_⟩
      simp [Edit.targets, Edit.cells, hfind]
  | ammoField id field value =>
      refine fieldChange_decides fun f hfind => ⟨f, AmmoField.apart.rewrites_store AmmoField.beside_set f value, ?_⟩
      simp [Edit.targets, Edit.cells, hfind]
  | soundField id field value =>
      refine fieldChange_decides fun f hfind => ⟨some f, SoundField.apart.rewrites_store SoundField.beside_set f value, ?_⟩
      simp [Edit.targets, Edit.cells, hfind]
  | thingBits id tokens =>
      rw [changes]
      refine bitsChanges_decides fun word _ => ⟨.flags, fun t => ?_, rfl⟩
      have hword : Thing.Rewrites .flags t { t with flags := Word.low32 (word.toNat : Int) } :=
        ThingField.apart.rewrites ThingField.beside_set .flags (word.toNat : Int) t
      rwa [low32_toNat] at hword
  | thingExtendedBits id tokens =>
      rw [changes]
      refine bitsChanges_decides fun word _ => ⟨.mbf21, fun t => ?_, rfl⟩
      have hword : Thing.Rewrites .mbf21 t { t with mbf21 := Word.low32 (word.toNat : Int) } :=
        ThingField.apart.rewrites ThingField.beside_set .mbf21 (word.toNat : Int) t
      rwa [low32_toNat] at hword
  | weaponBits id tokens =>
      rw [changes]
      refine bitsChanges_decides fun word _ => ⟨.flags, fun w => ?_, rfl⟩
      have hword : Weapon.Rewrites .flags w { w with flags := Word.low32 (word.toNat : Int) } :=
        WeaponField.apart.rewrites WeaponField.beside_set .flags (word.toNat : Int) w
      rwa [low32_toNat] at hword
  | pointer id mnemonic =>
      rw [changes, pointerChange]
      split
      · exact .change ⟨none, fun r => ⟨_, rfl⟩, rfl⟩
      · cases CodePointer.lookup? mnemonic with
        | some p => exact .change ⟨none, fun r => ⟨_, rfl⟩, rfl⟩
        | none => exact .warn _
  | pointerCopy id source =>
      rw [changes, copyChange]
      cases s.frame? source with
      | some f => exact .change ⟨none, fun r => ⟨_, rfl⟩, rfl⟩
      | none => exact .warn _
  | miscField id field value =>
      rw [changes, miscChange]
      cases hresolve : s.resolve MiscField.table "misc" id field value with
      | error w => exact .warn _
      | ok f =>
          refine .change ?_
          simp [Change.WritesTo, Edit.targets, Edit.cells, find?_of_resolve hresolve]
  | text old new =>
      rw [changes, textChange, Edit.targets]
      cases renamedSprite? old new with
      | some id => exact .change rfl
      | none =>
          cases renamedSound? old new with
          | some id => exact .change ⟨none, fun r => ⟨_, rfl⟩, rfl⟩
          | none =>
              cases Baseline.phraseRef? old with
              | some ref => exact .change rfl
              | none => exact .warn _
  | phrase mnemonic new =>
      rw [changes, phraseChange, Edit.targets]
      cases Baseline.mnemonicRef? mnemonic with
      | some ref => exact .change rfl
      | none => exact .warn _
  | unknown kind => exact ⟨[], .inl rfl⟩

/-- After an edit that is carried out the targets it names are written, in the record there was or in a neutral one, and
all else reads as before; after one that is refused, or is no edit at all, everything does.  Users that are made
modified on the way read as before. -/
theorem footprint_of_edit (s : Session) (e : Edit) :
    (if s.accepts e = true then Footprint s (s.applyAll [e]).1 e.targets else SameReads s (s.applyAll [e]).1) ∧
      (∀ uses, SameReads s (s.touchUsers uses)) ∧ (∀ id, SameReads s (s.touchThings (ammoUsers id))) ∧
      (∀ field, SameReads s (s.touchThings (miscThings field))) ∧ SameReads s (s.touchThings s.monsters) := by
  refine ⟨?_, .touchUsers s, .touchAmmoUsers s, .touchMiscThings s, .touchMonsters s⟩
  cases happly : s.apply e with
  | error err =>
      have hkept : (s.applyAll [e]).1 = s := by
        rw [applyAll, happly]
      have hrefused : s.accepts e = false := by
        cases e with
        | unknown kind => rfl
        | _ => cases happly
      rw [hrefused, hkept]
      exact .refl s
  | ok s' =>
      have hafter : (s.applyAll [e]).1 = s' := by
        rw [applyAll, happly]
        rfl
      rw [hafter]
      rcases (s.changes_writeTo e).apply_cases happly with ⟨hrefused, ws, rfl⟩ | ⟨haccepted, ws, c, hc, hadmits, rfl⟩
      · rw [hrefused]
        exact .warnings s ws
      · rw [if_pos haccepted]
        exact Footprint.congr (.warnings s ws) (.of_carry hadmits hc) (.refl _)

/-- A thing far beyond the table comes into being with its first edit, neutral but for its hit points. -/
theorem footprint_of_edit_beyond :
    (new 2021).thing? 500 = none ∧
      ∃ t, ((new 2021).applyAll [.thingField 500 "Hit points" 7]).1.thing? 500 = some t ∧
        Thing.Rewrites .health (Thing.neutral (Baseline.extraThingName 500)) t := by
  have hnone : (new 2021).thing? 500 = none := by
    set_option maxRecDepth 4000 in decide
  have haccepted : (new 2021).accepts (.thingField 500 "Hit points" 7) = true := by decide
  have htarget : Target.field (.thing 500 .health) ∈ (Edit.thingField 500 "Hit points" 7).targets := by decide
  have hall := (footprint_of_edit (new 2021) (.thingField 500 "Hit points" 7)).1
  rw [if_pos haccepted] at hall
  obtain ⟨r, t, hstart, hthing, hr⟩ := (hall.things 500).written .health htarget
  rw [hnone] at hstart
  cases hstart
  exact ⟨hnone, t, hthing, hr⟩

end Session
end DoomPatch
