import DoomPatch.Proofs.Session.Change
import DoomPatch.Proofs.Session.Users

/-!
# Who is modified by an edit

An edit that is carried out makes modified what it writes to and whoever uses that, one step away and no further.
Users are looked for after the record was written, and for a frame that existed before they are the users it had.

* `Subject`, `Edit.subject` — what an edit is about.
* `Subject.ThingUser`, `Subject.WeaponUser` — who is made modified by an edit about it.
* `admits`, `accepts` — whether a change or an edit is carried out.
* `contains_things_carry`, `contains_weapons_carry` — one change makes modified exactly what it writes.
* `Reachable.modified_apply` — one edit makes modified exactly the users of its subject.
-/

namespace DoomPatch

open Overlay

/-- What an edit is about. -/
inductive Subject where
  | thing (id : Int)
  | frame (id : Int)
  | weapon (id : Int)
  | ammo (id : Int)
  | misc (field : MiscField) (value : Int)
  | sprite (id : Int)
  /-- A sound, a message or nothing: no thing and no weapon is affected. -/
  | other
deriving DecidableEq

/-- What an edit is about. -/
def Edit.subject : Edit → Subject
  | .thingField id _ _ | .thingBits id _ | .thingExtendedBits id _ => .thing id
  | .frameField id _ _ | .pointer id _ | .pointerCopy id _ => .frame id
  | .weaponField id _ _ | .weaponBits id _ => .weapon id
  | .ammoField id _ _ => .ammo id
  | .miscField _ field value =>
    match MiscField.table.find? field with
    | some f => .misc f value
    | none => .other
  | .text old new =>
    match Session.renamedSprite? old new with
    | some id => .sprite id
    | none => .other
  | .soundField .. | .phrase .. | .unknown _ => .other

/-- What a change is about. -/
def Change.subject : Change → Subject
  | .thing id _ _ => .thing id
  | .frame id _ _ => .frame id
  | .weapon id _ _ => .weapon id
  | .ammo id _ _ => .ammo id
  | .misc field value => .misc field value
  | .sprite id _ => .sprite id
  | .warn _ | .sound .. | .text .. => .other

namespace Subject

open Session

/-- The things that an edit about something makes modified. -/
def ThingUser (s : Session) : Subject → Int → Prop
  | .thing i, id => id = i
  | .frame i, id => s.ThingShows i id
  | .ammo i, id => id = player ∨ id = backpack ∨ id ∈ ammoPickups i
  | .misc field value, id => id ∈ miscThings field ∨ (field = .infight ∧ value = Misc.infightOn ∧ s.IsMonster id)
  | .sprite i, id => s.ThingWears i id
  | .weapon _, _ | .other, _ => False

/-- The weapons that an edit about something makes modified. -/
def WeaponUser (s : Session) : Subject → Int → Prop
  | .weapon i, id => id = i
  | .frame i, id => s.WeaponShows i id
  | .misc field _, id => field = .bfgCells ∧ id = bfg
  | .sprite i, id => s.WeaponWears i id
  | .thing _, _ | .ammo _, _ | .other, _ => False

end Subject

namespace Session

variable {s s' : Session} {c : Change} {e : Edit}

/-! ### Acceptance -/

/-- A change is carried out: it is no warning, and its record can be opened. -/
def admits (s : Session) : Change → Bool
  | .warn _ => false
  | .thing id _ _ => (s.openThing id).isOk
  | .frame id _ _ => (s.openFrame id).isOk
  | .weapon id _ _ => (s.openWeapon id).isOk
  | .ammo id _ _ => (s.openAmmo id).isOk
  | .sound id _ _ => (s.openSound id).isOk
  | .misc .. | .sprite .. | .text .. => true

/-- An edit is carried out, and not just warned about. -/
def accepts (s : Session) (e : Edit) : Bool := (s.changes e).any s.admits

/-- A change that is not carried out leaves warnings. -/
theorem carry_of_not_admits (hadmits : s.admits c = false) :
    s.carry c = { s with warnings := s.warnings ++ s.complaints c } := by
  have hrefused : ∀ {ρ : Type} {found : Except RangeError ρ}, found.isOk = false → ∃ err, found = .error err := by
    intro ρ found hfound
    cases found with
    | error err => exact ⟨err, rfl⟩
    | ok r => cases hfound
  cases c with
  | warn w => rfl
  | thing id field alter | frame id field alter | weapon id field alter | ammo id field alter
  | sound id field alter =>
      obtain ⟨err, hopen⟩ := hrefused hadmits
      simp [carry, onOpened, refuse, warn, hopen]
  | misc field value | sprite id name | text ref value => cases hadmits

/-! ### One change -/

theorem exists_ok_of_isOk {ρ : Type} {found : Except RangeError ρ} (hok : found.isOk = true) :
    ∃ r, found = .ok r := by
  cases found with
  | error err => cases hok
  | ok r => exact ⟨r, rfl⟩

/-- The numbers of modified things are not negative, and modified weapons are weapons of the game. -/
structure Grounded (s : Session) : Prop where
  things : ∀ id, s.things.contains id = true → 0 ≤ id
  weapons : ∀ id, s.weapons.contains id = true → id ∈ weaponIds

namespace Grounded

theorem nonneg {id : Int} (hs : s.Grounded) (hexists : (s.thing? id).isSome) : 0 ≤ id := by
  unfold thing? at hexists
  rw [Option.isSome_or, Bool.or_eq_true] at hexists
  rcases hexists with hmodified | hbase
  · exact hs.things id hmodified
  · obtain ⟨t, ht⟩ := Option.isSome_iff_exists.1 hbase
    exact (Baseline.bounds_of_at? ht).1

theorem mem_weaponIds {id : Int} (hs : s.Grounded) (hexists : (s.weapon? id).isSome) : id ∈ weaponIds := by
  unfold weapon? at hexists
  rw [Option.isSome_or, Bool.or_eq_true] at hexists
  rcases hexists with hmodified | hbase
  · exact hs.weapons id hmodified
  · obtain ⟨w, hw⟩ := Option.isSome_iff_exists.1 hbase
    exact mem_weaponIds_of_baseline hw

/-- What writes make modified could be opened, and what can be opened has an acceptable number. -/
theorem rewriteAll {ρ : Type} {base : Int → Except RangeError ρ} {m : SortedMap Int ρ} {P : Int → Prop}
    (hm : ∀ id, m.contains id = true → P id) (hbase : ∀ id, (base id).isOk = true → P id) (ws : List (Write ρ))
    (id : Int) (hid : (rewriteAll base m ws).contains id = true) : P id := by
  rcases (contains_rewriteAll ws id).1 hid with hmodified | ⟨-, hok⟩
  · exact hm id hmodified
  · cases hget : m.get? id with
    | some r => exact hm id (by rw [SortedMap.contains, hget]; rfl)
    | none =>
        rw [opened_of_get?_eq_none hget] at hok
        exact hbase id hok

theorem carry (hs : s.Grounded) (c : Change) : (s.carry c).Grounded := by
  have hthing : ∀ id, (thingBase s.version id).isOk = true → 0 ≤ id := by
    intro id hok
    rcases Int.lt_or_le id 0 with hneg | hnonneg
    · have hcheck : (new s.version).checkId "thing" id Baseline.numThings = .error (.negativeId "thing" id) := by
        unfold checkId
        rw [if_pos hneg]
      rw [thingBase, hcheck] at hok
      cases hok
    · exact hnonneg
  have hweapon : ∀ id, (weaponBase id).isOk = true → id ∈ weaponIds := by
    intro id hok
    cases hbase : Baseline.weapon? id with
    | some w => exact mem_weaponIds_of_baseline hbase
    | none =>
        rw [weaponBase, hbase] at hok
        cases hok
  rw [carry_eq]
  exact ⟨rewriteAll hs.things hthing _, rewriteAll hs.weapons hweapon _⟩

end Grounded

theorem Reachable.grounded (hs : Reachable s) : s.Grounded := by
  refine hs.of_changes ?_ ?_ ?_
  · intro version
    exact ⟨fun _ hid => (by cases hid), fun _ hid => (by cases hid)⟩
  · exact fun s c hs => hs.carry c
  · exact fun s version hs => ⟨hs.things, hs.weapons⟩

section Written

variable {id : Int}

theorem carry_frame_of_ok {i : Int} {field : String} {alter : Frame → Frame} {f : Frame}
    (hopen : s.openFrame i = .ok f) :
    s.carry (.frame i field alter) = (s.putFrame i (alter f)).touchFrameUsers i := by
  simp [carry, onOpened, hopen]

theorem mem_written_miscThingWrites {field : MiscField} {value : Int} :
    id ∈ written (s.miscThingWrites field value) ↔
      id ∈ miscThings field ∨ (field = .infight ∧ value = Misc.infightOn ∧ id ∈ s.monsters) := by
  unfold miscThingWrites
  rw [written_append, List.mem_append, written_touches]
  cases field with
  | initialHealth => simp [miscThings]
  | infight => by_cases hon : value = Misc.infightOn <;> simp [hon]
  | _ => simp

/-- Who is a monster is the same after the monsters were touched. -/
theorem isMonster_carry_infight :
    (s.carry (.misc .infight Misc.infightOn)).IsMonster id ↔ s.IsMonster id := by
  have hexist : ∀ id ∈ s.monsters, (s.thing? id).isSome := by
    intro i hi
    obtain ⟨-, t, hthing, -⟩ := mem_monsters.1 hi
    exact Option.isSome_iff_exists.2 ⟨t, hthing⟩
  let u : Session := { s with misc := MiscField.table.store .infight Misc.infightOn s.misc, miscModified := true }
  have hread : (u.touchThings s.monsters).thing? id = s.thing? id := thing?_touchThings (s := u) hexist id
  change (u.touchThings s.monsters).IsMonster id ↔ s.IsMonster id
  unfold IsMonster
  rw [hread]

/-- A change that is carried out writes to the things that use what it is about. -/
theorem mem_written_thingWrites (hs : s.Grounded) (hadmits : s.admits c = true) :
    id ∈ written (s.thingWrites c) ↔ c.subject.ThingUser (s.carry c) id := by
  cases c with
  | thing i field alter => simp [Change.subject, Subject.ThingUser]
  | frame i field alter =>
      obtain ⟨f, hopen⟩ := exists_ok_of_isOk hadmits
      rw [carry_frame_of_ok hopen, thingWrites, hopen]
      change id ∈ written (touches _) ↔ ThingShows (touchUsers _ _) i id
      rw [written_touches, mem_thingsWith_frame, thingShows_touchUsers]
      refine and_iff_right_of_imp ?_
      rintro ⟨t, hthing, -⟩
      exact hs.nonneg (Option.isSome_iff_exists.2 ⟨t, hthing⟩)
  | ammo i field alter =>
      obtain ⟨a, hopen⟩ := exists_ok_of_isOk hadmits
      simp [hopen, ammoUsers, Change.subject, Subject.ThingUser]
  | misc field value =>
      change id ∈ written (s.miscThingWrites field value) ↔ id ∈ miscThings field ∨ _
      rw [mem_written_miscThingWrites]
      refine or_congr_right (and_congr_right ?_)
      rintro rfl
      refine and_congr_right ?_
      rintro rfl
      rw [mem_monsters, isMonster_carry_infight]
      refine and_iff_right_of_imp ?_
      rintro ⟨t, hthing, -⟩
      exact hs.nonneg (Option.isSome_iff_exists.2 ⟨t, hthing⟩)
  | sprite i name =>
      rw [carry, touchSpriteUsers]
      change id ∈ written (touches _) ↔ ThingWears (touchUsers _ _) i id
      rw [written_touches, mem_thingsWith_sprite, thingWears_touchUsers]
      refine and_iff_right_of_imp ?_
      rintro ⟨frame, f, ⟨t, hthing, -⟩, -⟩
      exact hs.nonneg (Option.isSome_iff_exists.2 ⟨t, hthing⟩)
  | warn w => cases hadmits
  | weapon i field alter | sound i field alter | text ref value => simp [Change.subject, Subject.ThingUser]

/-- A change that is carried out writes to the weapons that use what it is about. -/
theorem mem_written_weaponWrites (hs : s.Grounded) (hadmits : s.admits c = true) :
    id ∈ written (s.weaponWrites c) ↔ c.subject.WeaponUser (s.carry c) id := by
  cases c with
  | weapon i field alter => simp [Change.subject, Subject.WeaponUser]
  | frame i field alter =>
      obtain ⟨f, hopen⟩ := exists_ok_of_isOk hadmits
      rw [carry_frame_of_ok hopen, weaponWrites, hopen]
      change id ∈ written (touches _) ↔ WeaponShows (touchUsers _ _) i id
      rw [written_touches, mem_weaponsWith_frame, weaponShows_touchUsers]
      refine and_iff_right_of_imp ?_
      rintro ⟨w, hweapon, -⟩
      exact hs.mem_weaponIds (Option.isSome_iff_exists.2 ⟨w, hweapon⟩)
  | misc field value => cases field <;> simp [miscWeaponWrites, Change.subject, Subject.WeaponUser]
  | sprite i name =>
      rw [carry, touchSpriteUsers]
      change id ∈ written (touches _) ↔ WeaponWears (touchUsers _ _) i id
      rw [written_touches, mem_weaponsWith_sprite, weaponWears_touchUsers]
      refine and_iff_right_of_imp ?_
      rintro ⟨frame, f, ⟨w, hweapon, -⟩, -⟩
      exact hs.mem_weaponIds (Option.isSome_iff_exists.2 ⟨w, hweapon⟩)
  | warn w => cases hadmits
  | thing i field alter | ammo i field alter | sound i field alter | text ref value =>
      simp [Change.subject, Subject.WeaponUser]

/-- What a change that is carried out writes to things can be opened: it is the thing it is about, or exists. -/
theorem isOk_openThing_of_written (hadmits : s.admits c = true) (hid : id ∈ written (s.thingWrites c)) :
    (s.openThing id).isOk = true := by
  have hexists : ∀ {t : Thing}, s.thing? id = some t → (s.openThing id).isOk = true := by
    intro t hthing
    rw [openThing_of_thing? hthing]
    rfl
  have hbaseline : (Baseline.thing? id).isSome → (s.openThing id).isOk = true := by
    intro hbase
    obtain ⟨t, hthing⟩ := Option.isSome_iff_exists.1 (isSome_thing?_of_baseline (s := s) hbase)
    exact hexists hthing
  cases c with
  | thing i field alter =>
      have heq : id = i := by simpa using hid
      exact heq ▸ hadmits
  | frame i field alter =>
      obtain ⟨f, hopen⟩ := exists_ok_of_isOk hadmits
      rw [thingWrites, hopen] at hid
      simp only [written_touches, mem_thingsWith] at hid
      obtain ⟨-, t, hthing, -⟩ := hid
      exact hexists hthing
  | ammo i field alter =>
      obtain ⟨a, hopen⟩ := exists_ok_of_isOk hadmits
      rw [thingWrites, hopen] at hid
      simp only [written_touches] at hid
      exact hbaseline (isSome_baseline_of_mem_ammoUsers hid)
  | misc field value =>
      rcases mem_written_miscThingWrites.1 hid with hstatic | ⟨-, -, hmonster⟩
      · exact hbaseline (isSome_baseline_of_mem_miscThings hstatic)
      · obtain ⟨-, t, hthing, -⟩ := mem_monsters.1 hmonster
        exact hexists hthing
  | sprite i name =>
      simp only [thingWrites, written_touches, mem_thingsWith] at hid
      obtain ⟨-, t, hthing, -⟩ := hid
      exact hexists hthing
  | warn w | weapon i field alter | sound i field alter | text ref value => simp at hid

/-- What a change that is carried out writes to weapons can be opened. -/
theorem isOk_openWeapon_of_written (hadmits : s.admits c = true) (hid : id ∈ written (s.weaponWrites c)) :
    (s.openWeapon id).isOk = true := by
  have hexists : ∀ {w : Weapon}, s.weapon? id = some w → (s.openWeapon id).isOk = true := by
    intro w hweapon
    rw [openWeapon_of_weapon? hweapon]
    rfl
  cases c with
  | weapon i field alter =>
      have heq : id = i := by simpa using hid
      exact heq ▸ hadmits
  | frame i field alter =>
      obtain ⟨f, hopen⟩ := exists_ok_of_isOk hadmits
      rw [weaponWrites, hopen] at hid
      simp only [written_touches, mem_weaponsWith] at hid
      obtain ⟨-, w, hweapon, -⟩ := hid
      exact hexists hweapon
  | misc field value =>
      have heq : id = bfg := by
        cases field <;> simp_all [miscWeaponWrites]
      have hbfg : (Baseline.weapon? bfg).isSome := Baseline.isSome_weapon? (by decide)
      have hsome : (s.weapon? id).isSome := by
        unfold weapon?
        rw [heq, Option.isSome_or, hbfg, Bool.or_true]
      obtain ⟨w, hweapon⟩ := Option.isSome_iff_exists.1 hsome
      exact hexists hweapon
  | sprite i name =>
      simp only [weaponWrites, written_touches, mem_weaponsWith] at hid
      obtain ⟨-, w, hweapon, -⟩ := hid
      exact hexists hweapon
  | warn w | thing i field alter | ammo i field alter | sound i field alter | text ref value => simp at hid

/-- A change that is carried out makes the things modified that use what it is about, and no others. -/
theorem contains_things_carry (hs : s.Grounded) (hadmits : s.admits c = true) :
    (s.carry c).things.contains id = true ↔
      s.things.contains id = true ∨ c.subject.ThingUser (s.carry c) id := by
  have hthings : (s.carry c).things = rewriteAll (thingBase s.version) s.things (s.thingWrites c) := by
    rw [carry_eq]
  rw [hthings, contains_rewriteAll, ← openThing_eq, and_iff_left_of_imp (isOk_openThing_of_written hadmits),
    mem_written_thingWrites hs hadmits]

/-- A change that is carried out makes the weapons modified that use what it is about, and no others. -/
theorem contains_weapons_carry (hs : s.Grounded) (hadmits : s.admits c = true) :
    (s.carry c).weapons.contains id = true ↔
      s.weapons.contains id = true ∨ c.subject.WeaponUser (s.carry c) id := by
  have hweapons : (s.carry c).weapons = rewriteAll weaponBase s.weapons (s.weaponWrites c) := by
    rw [carry_eq]
  rw [hweapons, contains_rewriteAll, ← openWeapon_eq, and_iff_left_of_imp (isOk_openWeapon_of_written hadmits),
    mem_written_weaponWrites hs hadmits]

end Written

/-- The users of a frame that exists are the same before and after a change of it. -/
theorem shows_carry_frame {i : Int} {field : String} {alter : Frame → Frame}
    (hframe : (s.frame? i).isSome) (id : Int) :
    ((s.carry (.frame i field alter)).ThingShows i id ↔ s.ThingShows i id) ∧
      ((s.carry (.frame i field alter)).WeaponShows i id ↔ s.WeaponShows i id) := by
  cases hopen : s.openFrame i with
  | error err =>
      have hcarry : s.carry (.frame i field alter) = { s with warnings := s.warnings ++ s.complaints _ } :=
        carry_of_not_admits (by rw [admits, hopen]; rfl)
      rw [hcarry]
      exact ⟨Iff.rfl, Iff.rfl⟩
  | ok f =>
      rw [carry_frame_of_ok hopen]
      exact ⟨(thingShows_touchUsers _).trans (thingShows_putFrame hframe _),
        (weaponShows_touchUsers _).trans (weaponShows_putFrame hframe _)⟩

/-! ### One edit -/

/-- Changes that come down to warnings and at most one more, of a given kind. -/
def Decides (P : Change → Prop) (cs : List Change) : Prop :=
  ∃ ws : List Warning, cs = ws.map .warn ∨ ∃ c, P c ∧ cs = ws.map .warn ++ [c]

section Decides

variable {P : Change → Prop}

theorem Decides.warn (w : Warning) : Decides P [.warn w] := ⟨[w], .inl rfl⟩

theorem Decides.change {c : Change} (hc : P c) : Decides P [c] := ⟨[], .inr ⟨c, hc, rfl⟩⟩

theorem fieldChange_decides {φ ρ : Type} {table : FieldTable φ ρ} {entity field : String} {id value : Int}
    {change : String → (ρ → ρ) → Change}
    (hchange : ∀ f, table.find? field = some f → P (change (table.name f) (table.store f value))) :
    Decides P [s.fieldChange table entity id field value change] := by
  unfold fieldChange
  cases hresolve : s.resolve table entity id field value with
  | error w => exact .warn w
  | ok f => exact .change (hchange f (find?_of_resolve hresolve))

theorem bitsChanges_decides {v : Vocabulary} {entity tokens : String} {id : Int} {change : UInt32 → Change}
    (hchange : ∀ word, (FlagExpression.parse v tokens).1 = word → P (change word)) :
    Decides P (bitsChanges v entity id tokens change) := by
  unfold bitsChanges
  generalize FlagExpression.parse v tokens = parsed at hchange
  obtain ⟨word, unknown⟩ := parsed
  dsimp only
  refine ⟨unknown.map (tokenWarning v entity id), ?_⟩
  split
  · exact .inl (List.append_nil _)
  · exact .inr ⟨_, hchange word rfl, rfl⟩

/-- An edit is refused and leaves warnings, or the change it comes down to is carried out after them. -/
theorem Decides.apply_cases (hdecides : Decides P (s.changes e)) (happly : s.apply e = .ok s') :
    (s.accepts e = false ∧ ∃ ws, s' = { s with warnings := ws }) ∨
      (s.accepts e = true ∧ ∃ ws c, P c ∧ ({ s with warnings := ws } : Session).admits c = true ∧
        s' = ({ s with warnings := ws } : Session).carry c) := by
  have hwarned : ∀ ws : List Warning, (ws.map Change.warn).any s.admits = false := by
    intro ws
    simp [admits]
  rw [apply_eq_carryAll happly]
  unfold accepts
  obtain ⟨ws, hcs | ⟨c, hc, hcs⟩⟩ := hdecides
  · left
    rw [hcs]
    exact ⟨hwarned ws, _, carryAll_warn s ws⟩
  · have hadmits : (s.changes e).any s.admits = s.admits c := by
      rw [hcs, List.any_append, hwarned]
      simp
    rw [hadmits, hcs, carryAll_append, carryAll_warn, carryAll_singleton]
    -- Whether a record can be opened does not depend on the warnings before.
    have hsame : ({ s with warnings := s.warnings ++ ws } : Session).admits c = s.admits c := by
      cases c <;> rfl
    cases hadmitted : s.admits c with
    | true => exact .inr ⟨rfl, _, c, hc, hsame.trans hadmitted, rfl⟩
    | false => exact .inl ⟨rfl, _, carry_of_not_admits (hsame.trans hadmitted)⟩

end Decides

theorem changes_decides (s : Session) (e : Edit) : Decides (fun c => c.subject = e.subject) (s.changes e) := by
  cases e with
  | thingField id field value | frameField id field value | weaponField id field value | ammoField id field value
  | soundField id field value =>
      rw [changes]
      exact fieldChange_decides fun _ _ => rfl
  | thingBits id tokens | thingExtendedBits id tokens | weaponBits id tokens =>
      rw [changes]
      exact bitsChanges_decides fun _ _ => rfl
  | pointer id mnemonic =>
      rw [changes, pointerChange]
      split
      · exact .change rfl
      · cases CodePointer.lookup? mnemonic with
        | some p => exact .change rfl
        | none => exact .warn _
  | pointerCopy id source =>
      rw [changes, copyChange]
      cases s.frame? source with
      | some f => exact .change rfl
      | none => exact .warn _
  | miscField id field value =>
      rw [changes, miscChange]
      cases hresolve : s.resolve MiscField.table "misc" id field value with
      | error w => exact .warn _
      | ok f =>
          rw [Edit.subject, find?_of_resolve hresolve]
          exact .change rfl
  | text old new =>
      rw [changes, textChange, Edit.subject]
      cases renamedSprite? old new with
      | some id => exact .change rfl
      | none =>
          cases renamedSound? old new with
          | some id => exact .change rfl
          | none =>
              cases Baseline.phraseRef? old with
              | some ref => exact .change rfl
              | none => exact .warn _
  | phrase mnemonic new =>
      rw [changes, phraseChange]
      cases Baseline.mnemonicRef? mnemonic with
      | some ref => exact .change rfl
      | none => exact .warn _
  | unknown kind => exact ⟨[], .inl rfl⟩

/-- An edit is refused and leaves warnings, or one change about its subject is carried out after them. -/
theorem apply_cases (happly : s.apply e = .ok s') :
    (s.accepts e = false ∧ ∃ ws, s' = { s with warnings := ws }) ∨
      (s.accepts e = true ∧ ∃ ws c, c.subject = e.subject ∧ ({ s with warnings := ws } : Session).admits c = true ∧
        s' = ({ s with warnings := ws } : Session).carry c) :=
  (s.changes_decides e).apply_cases happly

/-- An edit that is carried out makes modified exactly the users of what it is about; one that is refused makes
nothing modified.  The users of a frame that existed before are the ones it had. -/
theorem Reachable.modified_apply (hs : Reachable s) (happly : s.apply e = .ok s') :
    (s.accepts e = true → ∀ id,
      (s'.things.contains id = true ↔ s.things.contains id = true ∨ e.subject.ThingUser s' id) ∧
        (s'.weapons.contains id = true ↔ s.weapons.contains id = true ∨ e.subject.WeaponUser s' id)) ∧
    (s.accepts e = false → s'.things = s.things ∧ s'.weapons = s.weapons) ∧
    ∀ frame, e.subject = .frame frame → (s.frame? frame).isSome → ∀ id,
      (s'.ThingShows frame id ↔ s.ThingShows frame id) ∧ (s'.WeaponShows frame id ↔ s.WeaponShows frame id) := by
  rcases apply_cases happly with ⟨hrefused, ws, rfl⟩ | ⟨haccepted, ws, c, hsubject, hadmits, rfl⟩
  · refine ⟨?_, fun _ => ⟨rfl, rfl⟩, fun frame _ _ id => ⟨Iff.rfl, Iff.rfl⟩⟩
    intro haccepted
    rw [hrefused] at haccepted
    cases haccepted
  · -- The warnings before the change are not read by anything that follows.
    have hgrounded : ({ s with warnings := ws } : Session).Grounded := ⟨hs.grounded.things, hs.grounded.weapons⟩
    refine ⟨?_, ?_, ?_⟩
    · intro _ id
      rw [← hsubject]
      exact ⟨contains_things_carry hgrounded hadmits, contains_weapons_carry hgrounded hadmits⟩
    · intro hrefused
      rw [hrefused] at haccepted
      cases haccepted
    · intro frame hframe hexists id
      rw [← hsubject] at hframe
      cases c with
      | frame i field alter =>
          cases hframe
          exact shows_carry_frame (s := { s with warnings := ws }) hexists id
      | _ => cases hframe

/-- The second frame of a standing trooper is made to go on with that of a sergeant. -/
theorem modified_apply_redirected :
    ∃ s s', s = patched 21 [.thingField 1 "Hit points" 500] ∧
      s.apply (.frameField 175 "Next frame" 207) = .ok s' ∧ s.accepts (.frameField 175 "Next frame" 207) = true ∧
      (s.frame? 175).isSome ∧
      (∀ id, (s'.things.contains id = true ↔ s.things.contains id = true ∨ s'.ThingShows 175 id) ∧
        (s'.weapons.contains id = true ↔ s.weapons.contains id = true ∨ s'.WeaponShows 175 id)) ∧
      ∀ id, (s'.ThingShows 175 id ↔ s.ThingShows 175 id) ∧ (s'.WeaponShows 175 id ↔ s.WeaponShows 175 id) := by
  have hs := reachable_patched 21 [.thingField 1 "Hit points" 500]
  have haccepted : (patched 21 [.thingField 1 "Hit points" 500]).accepts (.frameField 175 "Next frame" 207) = true := by
    decide
  have hframe : ((patched 21 [.thingField 1 "Hit points" 500]).frame? 175).isSome := by
    set_option maxRecDepth 4000 in decide
  obtain ⟨hmodified, -, hshows⟩ := hs.modified_apply (e := .frameField 175 "Next frame" 207) rfl
  exact ⟨_, _, rfl, rfl, haccepted, hframe, hmodified haccepted, hshows 175 rfl hframe⟩

end Session
end DoomPatch
