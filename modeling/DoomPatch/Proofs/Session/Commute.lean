import DoomPatch.Proofs.Field.Separate
import DoomPatch.Proofs.Session.Closure

/-!
# Edits of different fields commute

Two edits of fields that are kept in different places can be applied in either order.  Each looks for the users of
what it writes in the session it finds, and the other may have changed who they are: but whoever one edit wins or
loses as a user of the other is a user of the one itself, and modified anyway.

* `Cell`, `Edit.cells` — the places that an edit of a field writes to.
* `mem_chain_putFrame_carry` — a change of one frame does not alter who reaches another without it.
* `mem_written_thingWrites_carry`, `mem_written_weaponWrites_carry` — whom the first change does not write, the
  second writes as if it came first.
* `Independent`, `carry_comm` — changes whose alterations commute can be carried out in either order.
* `applyAll_comm` — edits that share no cell can be applied in either order.
-/

namespace DoomPatch

open Overlay

namespace Change

/-- A change of a record or of a global value, or a warning. -/
def ofField : Change → Bool
  | .sprite .. | .text .. => false
  | _ => true

/-- What a change makes of the records of things, touching left out. -/
def thingAlters : Change → List (Write Thing)
  | .thing id _ alter => [⟨id, alter⟩]
  | .misc .initialHealth value => [⟨Session.player, fun t => { t with health := value }⟩]
  | _ => []

/-- What a change makes of the records of weapons, touching left out. -/
def weaponAlters : Change → List (Write Weapon)
  | .weapon id _ alter => [⟨id, alter⟩]
  | .misc .bfgCells value => [⟨Session.bfg, fun w => { w with perShot := value }⟩]
  | _ => []

end Change

namespace Session

variable {s : Session} {a b : Change} {id : Int}

/-! ### After a change -/

theorem openFrame_carry (s : Session) (c : Change) (id : Int) :
    (s.carry c).openFrame id = (s.openFrame id).map (composed c.frameWrites id) := by
  rw [openFrame_eq, openFrame_eq, version_carry, frames_carry, opened_rewriteAll]

theorem openAmmo_carry (s : Session) (c : Change) (id : Int) :
    (s.carry c).openAmmo id = (s.openAmmo id).map (composed c.ammoWrites id) := by
  rw [openAmmo_eq, openAmmo_eq, ammo_carry, opened_rewriteAll]

theorem thing?_carry (hid : id ∉ written (s.thingWrites a)) : (s.carry a).thing? id = s.thing? id := by
  unfold thing?
  rw [things_carry, get?_rewriteAll_of_not_mem hid]

theorem weapon?_carry (hid : id ∉ written (s.weaponWrites a)) : (s.carry a).weapon? id = s.weapon? id := by
  unfold weapon?
  rw [weapons_carry, get?_rewriteAll_of_not_mem hid]

theorem frame?_carry (hid : id ∉ written a.frameWrites) : (s.carry a).frame? id = s.frame? id := by
  unfold frame?
  rw [frames_carry, get?_rewriteAll_of_not_mem hid]

/-! ### Users after another change -/

/-- Whether a chain meets a frame does not depend on a change of another frame, unless the chain meets that one
once it is changed. -/
theorem mem_chain_putFrame_carry {start y : Int} {g g' : Frame}
    (hoff : ∀ x field alter f, a = .frame x field alter → s.openFrame x = .ok f →
      x ∉ (s.putFrame x (alter f)).reel.chain start) :
    y ∈ ((s.carry a).putFrame y g').reel.chain start ↔ y ∈ (s.putFrame y g).reel.chain start := by
  have hput : ∀ (s : Session) (id : Int) (f : Frame), ((s.putFrame id f).reel.frame? id).isSome := by
    intro s id f
    change ((s.putFrame id f).frame? id).isSome
    rw [frame?_putFrame, if_pos rfl]
    rfl
  have hother : ∀ {s : Session} {id i : Int} (f : Frame), i ≠ id → (s.putFrame id f).reel.frame? i = s.frame? i :=
    fun f hne => (frame?_putFrame _ _ _ f).trans (if_neg hne)
  -- A change that writes no frame leaves two reels that differ in `y` alone.
  have hsame : (s.carry a).frames = s.frames →
      (y ∈ ((s.carry a).putFrame y g').reel.chain start ↔ y ∈ (s.putFrame y g).reel.chain start) := by
    intro hframes
    refine Reel.mem_chain_iff_of_eq_off (hput _ _ _) (hput _ _ _) ?_
    intro i hne
    rw [hother _ hne, hother _ hne]
    unfold frame?
    rw [hframes]
  cases a with
  | frame x field alter =>
      cases hopen : s.openFrame x with
      | error err =>
          refine hsame ?_
          rw [frames_carry]
          exact rewriteAll_one_of_error alter (s.openFrame_eq x ▸ hopen)
      | ok f =>
          refine Reel.mem_chain_iff_of_eq_off_two (hput _ _ _) (hput _ _ _) ?_ (hput _ x (alter f))
            (hoff x field alter f rfl hopen)
          intro i hney hnex
          rw [hother _ hney, hother _ hney, hother _ hnex]
          exact ⟨frame?_carry (by simpa using hnex), rfl⟩
  | _ => exact hsame (frames_carry s _)

/-- Whom the first change does not write, the second writes as if it came first: things. -/
theorem mem_written_thingWrites_carry (hb : b.ofField = true) (hid : id ∉ written (s.thingWrites a)) :
    id ∈ written ((s.carry a).thingWrites b) ↔ id ∈ written (s.thingWrites b) := by
  have hthing : (s.carry a).thing? id = s.thing? id := thing?_carry hid
  cases b with
  | frame y field alter =>
      rw [thingWrites, thingWrites, openFrame_carry]
      cases s.openFrame y with
      | error err => simp [Except.map]
      | ok f =>
          simp only [Except.map, written_touches, mem_thingsWith_frame]
          refine and_congr_right fun hnonneg => ?_
          have hchain : ∀ t, s.thing? id = some t → ∀ role ∈ Role.ofThing, ∀ g g',
              (y ∈ ((s.carry a).putFrame y g').reel.chain (t.start role) ↔
                y ∈ (s.putFrame y g).reel.chain (t.start role)) := by
            intro t ht role hrole g g'
            refine mem_chain_putFrame_carry ?_
            rintro x field alter f rfl hopen hmem
            -- A thing that meets the first frame is written by the first change.
            apply hid
            rw [thingWrites, hopen]
            simp only [written_touches, mem_thingsWith_frame]
            exact ⟨hnonneg, t, ht, role, hrole, hmem⟩
          constructor
          · rintro ⟨t, ht, role, hrole, hmem⟩
            have hbefore : s.thing? id = some t := hthing.symm.trans ht
            exact ⟨t, hbefore, role, hrole, (hchain t hbefore role hrole _ _).1 hmem⟩
          · rintro ⟨t, ht, role, hrole, hmem⟩
            exact ⟨t, hthing.trans ht, role, hrole, (hchain t ht role hrole _ _).2 hmem⟩
  | ammo y field alter =>
      rw [thingWrites, thingWrites, openAmmo_carry]
      cases s.openAmmo y <;> simp [Except.map]
  | misc field value =>
      rw [thingWrites, thingWrites, mem_written_miscThingWrites, mem_written_miscThingWrites, mem_monsters,
        mem_monsters]
      unfold IsMonster
      rw [hthing]
  | sprite y name | text ref value => cases hb
  | warn w | thing y field alter | weapon y field alter | sound y field alter => rfl

/-- Whom the first change does not write, the second writes as if it came first: weapons. -/
theorem mem_written_weaponWrites_carry (hb : b.ofField = true) (hid : id ∉ written (s.weaponWrites a)) :
    id ∈ written ((s.carry a).weaponWrites b) ↔ id ∈ written (s.weaponWrites b) := by
  have hweapon : (s.carry a).weapon? id = s.weapon? id := weapon?_carry hid
  cases b with
  | frame y field alter =>
      rw [weaponWrites, weaponWrites, openFrame_carry]
      cases s.openFrame y with
      | error err => simp [Except.map]
      | ok f =>
          simp only [Except.map, written_touches, mem_weaponsWith_frame]
          refine and_congr_right fun hlisted => ?_
          have hchain : ∀ w, s.weapon? id = some w → ∀ role ∈ Role.ofWeapon, ∀ g g',
              (y ∈ ((s.carry a).putFrame y g').reel.chain (w.start role) ↔
                y ∈ (s.putFrame y g).reel.chain (w.start role)) := by
            intro w hw role hrole g g'
            refine mem_chain_putFrame_carry ?_
            rintro x field alter f rfl hopen hmem
            apply hid
            rw [weaponWrites, hopen]
            simp only [written_touches, mem_weaponsWith_frame]
            exact ⟨hlisted, w, hw, role, hrole, hmem⟩
          constructor
          · rintro ⟨w, hw, role, hrole, hmem⟩
            have hbefore : s.weapon? id = some w := hweapon.symm.trans hw
            exact ⟨w, hbefore, role, hrole, (hchain w hbefore role hrole _ _).1 hmem⟩
          · rintro ⟨w, hw, role, hrole, hmem⟩
            exact ⟨w, hweapon.trans hw, role, hrole, (hchain w hw role hrole _ _).2 hmem⟩
  | sprite y name | text ref value => cases hb
  | warn w | thing y field alter | weapon y field alter | ammo y field alter | misc field value
  | sound y field alter => rfl

/-! ### Independent changes -/

/-- What one change makes of records and global values commutes with what the other makes of them. -/
structure Independent (a b : Change) : Prop where
  things : ∀ id r, composed b.thingAlters id (composed a.thingAlters id r) =
    composed a.thingAlters id (composed b.thingAlters id r)
  frames : ∀ id r, composed b.frameWrites id (composed a.frameWrites id r) =
    composed a.frameWrites id (composed b.frameWrites id r)
  weapons : ∀ id r, composed b.weaponAlters id (composed a.weaponAlters id r) =
    composed a.weaponAlters id (composed b.weaponAlters id r)
  ammo : ∀ id r, composed b.ammoWrites id (composed a.ammoWrites id r) =
    composed a.ammoWrites id (composed b.ammoWrites id r)
  sounds : ∀ id r, composed b.soundWrites id (composed a.soundWrites id r) =
    composed a.soundWrites id (composed b.soundWrites id r)
  misc : ∀ m, b.onMisc (a.onMisc m) = a.onMisc (b.onMisc m)

theorem composed_thingWrites (s : Session) (c : Change) (id : Int) (t : Thing) :
    composed (s.thingWrites c) id t = composed c.thingAlters id t := by
  cases c with
  | frame i field alter =>
      rw [thingWrites]
      cases s.openFrame i <;> simp [Change.thingAlters]
  | ammo i field alter =>
      rw [thingWrites]
      cases s.openAmmo i <;> simp [Change.thingAlters]
  | misc field value =>
      change composed (s.miscThingWrites field value) id t = _
      unfold miscThingWrites
      rw [composed_append, composed_touches]
      cases field with
      | infight => by_cases hon : value = Misc.infightOn <;> simp [Change.thingAlters, hon]
      | _ => rfl
  | sprite i name => simp [Change.thingAlters]
  | _ => rfl

theorem composed_weaponWrites (s : Session) (c : Change) (id : Int) (w : Weapon) :
    composed (s.weaponWrites c) id w = composed c.weaponAlters id w := by
  cases c with
  | frame i field alter =>
      rw [weaponWrites]
      cases s.openFrame i <;> simp [Change.weaponAlters]
  | misc field value => cases field <;> rfl
  | sprite i name => simp [Change.weaponAlters]
  | _ => rfl

/-- What both changes write to an overlay is the same in either order. -/
theorem rewriteAll_comm {ρ : Type} {base : Int → Except RangeError ρ} {m : SortedMap Int ρ}
    {first second first' second' : List (Write ρ)}
    (hsecond : ∀ id, id ∉ written first → (id ∈ written second' ↔ id ∈ written second))
    (hfirst : ∀ id, id ∉ written second → (id ∈ written first' ↔ id ∈ written first))
    (hcomposed : ∀ id r, composed second' id (composed first id r) = composed first' id (composed second id r)) :
    rewriteAll base (rewriteAll base m first) second' = rewriteAll base (rewriteAll base m second) first' := by
  rw [← rewriteAll_append, ← rewriteAll_append]
  refine rewriteAll_eq ?_ ?_
  · intro id
    have hs := hsecond id
    have hf := hfirst id
    simp only [written_append, List.mem_append]
    by_cases h : id ∈ written first <;> by_cases h' : id ∈ written second <;> simp_all
  · intro id r
    rw [composed_append, composed_append, hcomposed]

theorem refusal_map {ρ : Type} (entity field : String) (id : Int) (found : Except RangeError ρ) (alter : ρ → ρ) :
    refusal entity id field (found.map alter) = refusal entity id field found := by
  cases found <;> rfl

/-- What cannot be opened stays so, and for the same reason. -/
theorem complaints_carry (s : Session) (a b : Change) : (s.carry a).complaints b = s.complaints b := by
  cases b with
  | thing id field alter =>
      rw [complaints, complaints, openThing_eq, openThing_eq, version_carry, things_carry, opened_rewriteAll,
        refusal_map]
  | frame id field alter => rw [complaints, complaints, openFrame_carry, refusal_map]
  | weapon id field alter =>
      rw [complaints, complaints, openWeapon_eq, openWeapon_eq, weapons_carry, opened_rewriteAll, refusal_map]
  | ammo id field alter => rw [complaints, complaints, openAmmo_carry, refusal_map]
  | sound id field alter =>
      rw [complaints, complaints, openSound_eq, openSound_eq, version_carry, sounds_carry, opened_rewriteAll,
        refusal_map]
  | _ => rfl

/-- Sessions that agree in everything but their warnings. -/
theorem eq_of_fields {s s' : Session} (hversion : s'.version = s.version) (hthings : s'.things = s.things)
    (hframes : s'.frames = s.frames) (hweapons : s'.weapons = s.weapons) (hammo : s'.ammo = s.ammo)
    (hsounds : s'.sounds = s.sounds) (hsprites : s'.sprites = s.sprites) (htexts : s'.texts = s.texts)
    (hmisc : s'.misc = s.misc) (hflag : s'.miscModified = s.miscModified) :
    s' = { s with warnings := s'.warnings } := by
  cases s
  cases s'
  simp_all

/-- Independent changes can be carried out in either order; only the order of the warnings differs. -/
theorem carry_comm (ha : a.ofField = true) (hb : b.ofField = true) (hindependent : Independent a b) (s : Session) :
    (s.carry b).carry a = { (s.carry a).carry b with warnings := ((s.carry b).carry a).warnings } := by
  have hthings : ((s.carry b).carry a).things = ((s.carry a).carry b).things := by
    simp only [things_carry, version_carry]
    refine rewriteAll_comm ?_ ?_ ?_
    · exact fun id hid => mem_written_thingWrites_carry ha hid
    · exact fun id hid => mem_written_thingWrites_carry hb hid
    · intro id r
      simp only [composed_thingWrites, hindependent.things]
  have hweapons : ((s.carry b).carry a).weapons = ((s.carry a).carry b).weapons := by
    simp only [weapons_carry]
    refine rewriteAll_comm ?_ ?_ ?_
    · exact fun id hid => mem_written_weaponWrites_carry ha hid
    · exact fun id hid => mem_written_weaponWrites_carry hb hid
    · intro id r
      simp only [composed_weaponWrites, hindependent.weapons]
  have hframes : ((s.carry b).carry a).frames = ((s.carry a).carry b).frames := by
    simp only [frames_carry, version_carry]
    exact rewriteAll_comm (fun _ _ => Iff.rfl) (fun _ _ => Iff.rfl) fun id r => (hindependent.frames id r).symm
  have hammo : ((s.carry b).carry a).ammo = ((s.carry a).carry b).ammo := by
    simp only [ammo_carry]
    exact rewriteAll_comm (fun _ _ => Iff.rfl) (fun _ _ => Iff.rfl) fun id r => (hindependent.ammo id r).symm
  have hsounds : ((s.carry b).carry a).sounds = ((s.carry a).carry b).sounds := by
    simp only [sounds_carry, version_carry]
    exact rewriteAll_comm (fun _ _ => Iff.rfl) (fun _ _ => Iff.rfl) fun id r => (hindependent.sounds id r).symm
  have hnames : ∀ c : Change, c.ofField = true → (∀ m, c.onSprites m = m) ∧ ∀ m, c.onTexts m = m := by
    intro c hc
    cases c with
    | sprite i name | text ref value => cases hc
    | _ => exact ⟨fun _ => rfl, fun _ => rfl⟩
  have hsprites : ((s.carry b).carry a).sprites = ((s.carry a).carry b).sprites := by
    simp only [sprites_carry, (hnames a ha).1, (hnames b hb).1]
  have htexts : ((s.carry b).carry a).texts = ((s.carry a).carry b).texts := by
    simp only [texts_carry, (hnames a ha).2, (hnames b hb).2]
  have hmisc : ((s.carry b).carry a).misc = ((s.carry a).carry b).misc := by
    simp only [misc_carry, hindependent.misc]
  have hflag : ((s.carry b).carry a).miscModified = ((s.carry a).carry b).miscModified := by
    simp only [miscModified_carry, Bool.or_left_comm]
  have hversion : ((s.carry b).carry a).version = ((s.carry a).carry b).version := by
    simp only [version_carry]
  exact eq_of_fields hversion hthings hframes hweapons hammo hsounds hsprites htexts hmisc hflag

/-- The warnings of two changes are the same in either order, up to their order. -/
theorem warnings_carry_perm (s : Session) (a b : Change) :
    ((s.carry a).carry b).warnings.Perm ((s.carry b).carry a).warnings := by
  simp only [warnings_carry, complaints_carry, List.append_assoc]
  exact List.Perm.append_left _ List.perm_append_comm

end Session

/-! ### Cells -/

/-- A place that an edit of a field writes to. -/
inductive Cell where
  | thing (id : Int) (field : ThingField)
  | frame (id : Int) (field : FrameField)
  | weapon (id : Int) (field : WeaponField)
  | ammo (id : Int) (field : AmmoField)
  | sound (id : Int) (field : SoundField)
  | misc (field : MiscField)
deriving DecidableEq

/-- The places of a global value: two of them are kept in a record too. -/
def MiscField.cells : MiscField → List Cell
  | .initialHealth => [.misc .initialHealth, .thing Session.player .health]
  | .bfgCells => [.misc .bfgCells, .weapon Session.bfg .perShot]
  | f => [.misc f]

namespace Edit

/-- An edit that writes a number to a field. -/
def isField : Edit → Bool
  | .thingField .. | .frameField .. | .weaponField .. | .ammoField .. | .miscField .. | .soundField .. => true
  | _ => false

/-- The places that an edit of a field writes to; none if there is no such field. -/
def cells : Edit → List Cell
  | .thingField id field _ => (ThingField.table.find? field).toList.map (Cell.thing id)
  | .frameField id field _ => (FrameField.table.find? field).toList.map (Cell.frame id)
  | .weaponField id field _ => (WeaponField.table.find? field).toList.map (Cell.weapon id)
  | .ammoField id field _ => (AmmoField.table.find? field).toList.map (Cell.ammo id)
  | .soundField id field _ => (SoundField.table.find? field).toList.map (Cell.sound id)
  | .miscField _ field _ => (MiscField.table.find? field).toList.flatMap MiscField.cells
  | _ => []

end Edit

/-- The writes are numbers stored in fields, and the cells list these fields. -/
def StoresIn {φ ρ : Type} (table : FieldTable φ ρ) (cell : Int → φ → Cell) (ws : List (Write ρ)) (cells : List Cell) :
    Prop :=
  ∀ w ∈ ws, ∃ f v, w.alter = table.store f v ∧ cell w.id f ∈ cells

theorem StoresIn.nil {φ ρ : Type} (table : FieldTable φ ρ) (cell : Int → φ → Cell) (cells : List Cell) :
    StoresIn table cell [] cells := by
  simp [StoresIn]

theorem StoresIn.store {φ ρ : Type} (table : FieldTable φ ρ) {cell : Int → φ → Cell} {id : Int} {f : φ}
    {cells : List Cell} (hcell : cell id f ∈ cells) (v : Int) :
    StoresIn table cell [⟨id, table.store f v⟩] cells := by
  intro w hw
  rw [List.mem_singleton] at hw
  subst hw
  exact ⟨f, v, rfl, hcell⟩

/-- Writes to different cells commute. -/
theorem StoresIn.composed_comm {φ ρ : Type} {table : FieldTable φ ρ} (hseparate : table.Separate)
    {cell : Int → φ → Cell} {ws ws' : List (Write ρ)} {cells cells' : List Cell} (hws : StoresIn table cell ws cells)
    (hws' : StoresIn table cell ws' cells') (hapart : ∀ c ∈ cells, c ∉ cells') (id : Int) (r : ρ) :
    composed ws' id (composed ws id r) = composed ws id (composed ws' id r) := by
  refine Overlay.composed_comm ?_ id r
  intro w hw w' hw' hsame r
  obtain ⟨f, v, halter, hcell⟩ := hws w hw
  obtain ⟨f', v', halter', hcell'⟩ := hws' w' hw'
  have hne : f ≠ f' := by
    rintro rfl
    exact hapart _ hcell (hsame ▸ hcell')
  rw [halter, halter', hseparate.store_comm hne]

/-- A change writes to the cells of a list and nowhere else. -/
structure Change.Within (c : Change) (cells : List Cell) : Prop where
  ofField : c.ofField = true
  things : StoresIn ThingField.table .thing c.thingAlters cells
  frames : StoresIn FrameField.table .frame c.frameWrites cells
  weapons : StoresIn WeaponField.table .weapon c.weaponAlters cells
  ammo : StoresIn AmmoField.table .ammo c.ammoWrites cells
  sounds : StoresIn SoundField.table .sound c.soundWrites cells
  misc : (∀ m, c.onMisc m = m) ∨ ∃ f v, .misc f ∈ cells ∧ ∀ m, c.onMisc m = MiscField.table.store f v m

/-- Changes that write to different cells are independent. -/
theorem Change.Within.independent {a b : Change} {cells cells' : List Cell} (ha : a.Within cells)
    (hb : b.Within cells') (hapart : ∀ c ∈ cells, c ∉ cells') : Session.Independent a b where
  things := ha.things.composed_comm ThingField.separate hb.things hapart
  frames := ha.frames.composed_comm FrameField.separate hb.frames hapart
  weapons := ha.weapons.composed_comm WeaponField.separate hb.weapons hapart
  ammo := ha.ammo.composed_comm AmmoField.separate hb.ammo hapart
  sounds := ha.sounds.composed_comm SoundField.separate hb.sounds hapart
  misc := by
    intro m
    rcases ha.misc with hnone | ⟨f, v, hcell, hstore⟩
    · rw [hnone, hnone]
    · rcases hb.misc with hnone' | ⟨f', v', hcell', hstore'⟩
      · rw [hnone', hnone']
      · have hne : f ≠ f' := by
          rintro rfl
          exact hapart _ hcell hcell'
        rw [hstore, hstore', hstore', hstore, MiscField.separate.store_comm hne]

namespace Session

variable {s : Session} {e : Edit}

theorem within_warn (w : Warning) (cells : List Cell) : (Change.warn w).Within cells :=
  ⟨rfl, .nil _ _ _, .nil _ _ _, .nil _ _ _, .nil _ _ _, .nil _ _ _, .inl fun _ => rfl⟩

/-- Writing a field comes down to a change of its cell. -/
theorem fieldChange_within {φ ρ : Type} {table : FieldTable φ ρ} {entity field : String} {id value : Int}
    {change : String → (ρ → ρ) → Change} {cell : Int → φ → Cell}
    (hchange : ∀ name f, (change name (table.store f value)).Within [cell id f]) :
    (s.fieldChange table entity id field value change).Within ((table.find? field).toList.map (cell id)) := by
  unfold fieldChange
  cases hresolve : s.resolve table entity id field value with
  | error w => exact within_warn _ _
  | ok f =>
      rw [find?_of_resolve hresolve]
      exact hchange _ f

theorem misc_within (f : MiscField) (value : Int) : (Change.misc f value).Within f.cells where
  ofField := rfl
  things := by
    cases f with
    | initialHealth => exact .store _ (f := ThingField.health) (by decide) value
    | _ => exact .nil _ _ _
  frames := .nil _ _ _
  weapons := by
    cases f with
    | bfgCells => exact .store _ (f := WeaponField.perShot) (by decide) value
    | _ => exact .nil _ _ _
  ammo := .nil _ _ _
  sounds := .nil _ _ _
  misc := .inr ⟨f, value, by cases f <;> simp [MiscField.cells], fun _ => rfl⟩

/-- An edit of a field comes down to one change, of its cells. -/
theorem exists_change_within (he : e.isField = true) (s : Session) :
    ∃ c, s.changes e = [c] ∧ c.Within e.cells := by
  cases e with
  | thingField id field value =>
      refine ⟨_, rfl, fieldChange_within fun name f => ?_⟩
      exact ⟨rfl, .store _ (by simp) value, .nil _ _ _, .nil _ _ _, .nil _ _ _, .nil _ _ _, .inl fun _ => rfl⟩
  | frameField id field value =>
      refine ⟨_, rfl, fieldChange_within fun name f => ?_⟩
      exact ⟨rfl, .nil _ _ _, .store _ (by simp) value, .nil _ _ _, .nil _ _ _, .nil _ _ _, .inl fun _ => rfl⟩
  | weaponField id field value =>
      refine ⟨_, rfl, fieldChange_within fun name f => ?_⟩
      exact ⟨rfl, .nil _ _ _, .nil _ _ _, .store _ (by simp) value, .nil _ _ _, .nil _ _ _, .inl fun _ => rfl⟩
  | ammoField id field value =>
      refine ⟨_, rfl, fieldChange_within fun name f => ?_⟩
      exact ⟨rfl, .nil _ _ _, .nil _ _ _, .nil _ _ _, .store _ (by simp) value, .nil _ _ _, .inl fun _ => rfl⟩
  | soundField id field value =>
      refine ⟨_, rfl, fieldChange_within fun name f => ?_⟩
      exact ⟨rfl, .nil _ _ _, .nil _ _ _, .nil _ _ _, .nil _ _ _, .store _ (by simp) value, .inl fun _ => rfl⟩
  | miscField id field value =>
      refine ⟨_, rfl, ?_⟩
      change (s.miscChange id field value).Within ((MiscField.table.find? field).toList.flatMap MiscField.cells)
      unfold miscChange
      cases hresolve : s.resolve MiscField.table "misc" id field value with
      | error w => exact within_warn _ _
      | ok f =>
          rw [find?_of_resolve hresolve]
          simpa using misc_within f value
  | _ => cases he

/-- What an edit of a field comes down to depends on the version of the patch alone. -/
theorem changes_congr {s s' : Session} (hversion : s'.version = s.version) (he : e.isField = true) :
    s'.changes e = s.changes e := by
  have hresolve : ∀ {φ ρ : Type} (table : FieldTable φ ρ) (entity field : String) (id value : Int),
      s'.resolve table entity id field value = s.resolve table entity id field value := by
    intro φ ρ table entity field id value
    unfold resolve limits
    rw [hversion]
  cases e with
  | thingField id field value | frameField id field value | weaponField id field value | ammoField id field value
  | soundField id field value =>
      rw [changes, changes, fieldChange, fieldChange, hresolve]
  | miscField id field value => rw [changes, changes, miscChange, miscChange, hresolve]
  | _ => cases he

theorem apply_of_isField (he : e.isField = true) (s : Session) : ∃ s', s.apply e = .ok s' := by
  cases e with
  | thingField id field value | frameField id field value | weaponField id field value | ammoField id field value
  | soundField id field value | miscField id field value => exact ⟨_, rfl⟩
  | _ => cases he

/-- Two edits of fields, one after the other. -/
theorem applyAll_pair {a b : Edit} (ha : a.isField = true) (hb : b.isField = true) {c d : Change}
    (hc : s.changes a = [c]) (hd : s.changes b = [d]) : s.applyAll [a, b] = ((s.carry c).carry d, none) := by
  obtain ⟨u, hu⟩ := apply_of_isField ha s
  have hfirst : u = s.carry c := by
    rw [apply_eq_carryAll hu, hc, carryAll_singleton]
  subst hfirst
  obtain ⟨v, hv⟩ := apply_of_isField hb (s.carry c)
  have hsecond : v = (s.carry c).carry d := by
    rw [apply_eq_carryAll hv, changes_congr (version_carry s c) hb, hd, carryAll_singleton]
  simp only [applyAll, hu, hv, hsecond]

/-- Edits of fields that are kept in different places can be applied in either order: the sessions they lead to
differ at most in the order of the warnings. -/
theorem applyAll_comm {a b : Edit} (ha : a.isField = true) (hb : b.isField = true)
    (hcells : ∀ c ∈ a.cells, c ∉ b.cells) (s : Session) :
    ∃ s₁ s₂, s.applyAll [a, b] = (s₁, none) ∧ s.applyAll [b, a] = (s₂, none) ∧
      s₂ = { s₁ with warnings := s₂.warnings } ∧ s₁.warnings.Perm s₂.warnings := by
  obtain ⟨c, hc, hcwithin⟩ := exists_change_within ha s
  obtain ⟨d, hd, hdwithin⟩ := exists_change_within hb s
  refine ⟨_, _, applyAll_pair ha hb hc hd, applyAll_pair hb ha hd hc, ?_, ?_⟩
  · exact carry_comm hcwithin.ofField hdwithin.ofField (hcwithin.independent hdwithin hcells) s
  · exact warnings_carry_perm s c d

/-- A frame of the standing trooper is redirected, and the trooper is made to stand on another frame: either edit
changes who uses what the other writes to. -/
theorem applyAll_comm_redirected :
    (∀ c ∈ (Edit.frameField 174 "Next frame" 207).cells, c ∉ (Edit.thingField 1 "Initial frame" 207).cells) ∧
      ∃ s₁ s₂, (new 21).applyAll [.frameField 174 "Next frame" 207, .thingField 1 "Initial frame" 207] = (s₁, none) ∧
        (new 21).applyAll [.thingField 1 "Initial frame" 207, .frameField 174 "Next frame" 207] = (s₂, none) ∧
        s₂ = { s₁ with warnings := s₂.warnings } ∧ s₁.warnings.Perm s₂.warnings := by
  have hcells : ∀ c ∈ (Edit.frameField 174 "Next frame" 207).cells,
      c ∉ (Edit.thingField 1 "Initial frame" 207).cells := by decide
  exact ⟨hcells, applyAll_comm rfl rfl hcells (new 21)⟩

end Session
end DoomPatch
