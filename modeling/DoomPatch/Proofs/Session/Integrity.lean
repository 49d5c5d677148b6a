import DoomPatch.Proofs.Baseline.References
import DoomPatch.Proofs.Chain.Locality
import DoomPatch.Proofs.Session.Change
import DoomPatch.Proofs.Session.Overlay

/-!
# References of a session

Records name frames, sounds and sprites by number.  The numbers enter a session in many ways, some of them checked
under limits that a later version changes, some copied from other records.  Whatever the order of edits, versions and
resets, no record that can be read names a number out of range; and without a version that raises the limits, none
names something that the tables do not have.

* `Overlay.Obeys` — a law of the records of an overlay; `Obeys.rewriteAll` — what writes must keep for it to last.
* `Session.Proper` — the laws of all overlays, under limits that were never exceeded.
* `Change.Keeps`, `keeps_of_mem_changes` — the changes of an edit keep the laws; `Proper.carry` — so does the session.
* `History` — a session together with the versions that it ever had.
* `Reel.Unbroken` — a chain that ends at the null frame or returns to itself.
* `History.references_in_range` — the ranges of all references, and where they lead without extended limits.
-/

namespace DoomPatch

/-! ### Laws of an overlay -/

namespace Overlay

variable {ρ : Type} {base : Int → Except RangeError ρ} {m : SortedMap Int ρ} {law : Int → ρ → Prop}

/-- All records of an overlay obey a law. -/
def Obeys (law : Int → ρ → Prop) (m : SortedMap Int ρ) : Prop := ∀ id r, m.get? id = some r → law id r

theorem Obeys.empty : Obeys law ∅ := by
  intro id r hget
  cases hget

theorem Obeys.insert (hm : Obeys law m) {id : Int} {r : ρ} (hr : law id r) : Obeys law (m.insert id r) := by
  intro i r' hget
  rw [SortedMap.get?_insert] at hget
  split at hget
  · next heq =>
    cases hget
    exact heq ▸ hr
  · exact hm i r' hget

theorem Obeys.of_mem_keys (hm : Obeys law m) {id : Int} (hid : id ∈ m.keys) : ∃ r, law id r := by
  obtain ⟨r, hget⟩ := Option.isSome_iff_exists.1 ((SortedMap.mem_keys_iff _ _).1 hid)
  exact ⟨r, hm id r hget⟩

/-- A write keeps a law that holds of what is opened and that the alteration keeps. -/
theorem Obeys.rewrite (hm : Obeys law m) (hbase : ∀ id r, base id = .ok r → law id r) {w : Write ρ}
    (hw : ∀ r, law w.id r → law w.id (w.alter r)) : Obeys law (Overlay.rewrite base m w) := by
  unfold Overlay.rewrite
  cases hopen : opened base m w.id with
  | error e => exact hm
  | ok r =>
      have hr : law w.id r := by
        unfold opened at hopen
        split at hopen
        · next hget =>
          cases hopen
          exact hm _ _ hget
        · exact hbase _ _ hopen
      exact hm.insert (hw r hr)

theorem Obeys.rewriteAll (hm : Obeys law m) (hbase : ∀ id r, base id = .ok r → law id r) {ws : List (Write ρ)}
    (hws : ∀ w ∈ ws, ∀ r, law w.id r → law w.id (w.alter r)) : Obeys law (Overlay.rewriteAll base m ws) := by
  induction ws generalizing m with
  | nil => exact hm
  | cons w ws ih =>
      rw [rewriteAll_cons]
      exact ih (hm.rewrite hbase (hws w List.mem_cons_self)) fun w' hw' => hws w' (List.mem_cons_of_mem _ hw')

theorem keeps_of_mem_touches {ids : List Int} {w : Write ρ} (hw : w ∈ touches ids) (r : ρ) (hr : law w.id r) :
    law w.id (w.alter r) := by
  obtain ⟨id, -, rfl⟩ := List.mem_map.1 hw
  exact hr

end Overlay

/-! ### The laws of records -/

/-- A thing under its number: all its references are within limits. -/
def Thing.Proper (lim : Limits) (id : Int) (t : Thing) : Prop :=
  (0 ≤ id ∧ id ≤ Limits.extendedMax) ∧ ThingField.table.Within lim t

/-- A frame under its number: all its references are within limits, and its action is empty or found. -/
def Frame.Proper (lim : Limits) (id : Int) (f : Frame) : Prop :=
  (0 ≤ id ∧ id ≤ lim.frames) ∧ FrameField.table.Within lim f ∧ f.Resolves

/-- A weapon under its number: all its references are within limits. -/
def Weapon.Proper (lim : Limits) (id : Int) (w : Weapon) : Prop :=
  (0 ≤ id ∧ id < Baseline.numWeapons) ∧ WeaponField.table.Within lim w

/-- An ammunition type under its number: the maximum is capped. -/
def Ammo.Proper (id : Int) (a : Ammo) : Prop :=
  (0 ≤ id ∧ id < Baseline.numAmmo) ∧ 0 ≤ a.max ∧ a.max ≤ AmmoField.maxAmount

namespace Session

open Overlay

variable {lim : Limits} {s : Session} {version id : Int}

/-- The laws of all overlays. -/
structure Proper (lim : Limits) (s : Session) : Prop where
  things : Obeys (Thing.Proper lim) s.things
  frames : Obeys (Frame.Proper lim) s.frames
  weapons : Obeys (Weapon.Proper lim) s.weapons
  ammo : Obeys Ammo.Proper s.ammo
  sounds : Obeys (fun id _ => 0 ≤ id ∧ id ≤ lim.sounds) s.sounds
  sprites : Obeys (fun id _ => 0 ≤ id ∧ id ≤ lim.sprites) s.sprites

theorem proper_new (version : Int) : (new version).Proper lim :=
  ⟨Obeys.empty, Obeys.empty, Obeys.empty, Obeys.empty, Obeys.empty, Obeys.empty⟩

/-! ### Records of the tables and neutral records -/

theorem spriteIndex?_of_renamedSprite? {old new : String} (hrenamed : renamedSprite? old new = some id) :
    Baseline.spriteIndex? old = some id := by
  unfold renamedSprite? at hrenamed
  split at hrenamed
  · exact hrenamed
  · cases hrenamed

/-- Numbers beyond a table are only used where the limits are raised. -/
theorem le_of_checkId {entity : String} {size bound : Int} {u : Unit} (hcheck : s.checkId entity id size = .ok u)
    (hsize : size - 1 ≤ bound) (hraised : s.limits.extended = true → Limits.extendedMax ≤ bound) :
    0 ≤ id ∧ id ≤ bound := by
  unfold checkId at hcheck
  split at hcheck
  · cases hcheck
  · split at hcheck
    · omega
    · split at hcheck
      · cases hcheck
      · next hextended =>
        split at hcheck
        · cases hcheck
        · have hbound := hraised (by simpa using hextended)
          omega

theorem exists_of_map_ok {ε α β : Type} {x : Except ε α} {f : α → β} {b : β} (hmap : x.map f = .ok b) :
    ∃ a, x = .ok a ∧ f a = b := by
  cases x with
  | error e => cases hmap
  | ok a => exact ⟨a, rfl, Except.ok.inj hmap⟩

theorem within_neutralThing (hle : Limits.tables.Le lim) (name : String) :
    ThingField.table.Within lim (Thing.neutral name) := by
  -- A neutral thing names the null frame and the null sound only.
  intro field
  cases field <;> first | trivial | exact FieldKind.inRange_zero hle _

theorem within_neutralFrame (hle : Limits.tables.Le lim) (hid : 0 ≤ id ∧ id ≤ lim.frames) :
    FrameField.table.Within lim (Frame.neutral id) := by
  intro field
  cases field with
  | next => exact hid
  | sprite | picture => exact FieldKind.inRange_zero hle _
  | _ => trivial

theorem proper_thingBase (hle : (Limits.ofVersion version).Le lim) {t : Thing} (hbase : thingBase version id = .ok t) :
    t.Proper lim id := by
  have htables := (Limits.tables_le version).trans hle
  obtain ⟨u, hcheck, rfl⟩ := exists_of_map_ok hbase
  refine ⟨bounds_of_checkId (by decide) hcheck, ?_⟩
  cases hthing : Baseline.thing? id with
  | some t => exact (Baseline.within_thing? hthing).mono htables
  | none => exact within_neutralThing htables _

theorem proper_frame? (hle : Limits.tables.Le lim) {f : Frame} (hframe : Baseline.frame? id = some f) :
    f.Proper lim id := by
  have hbounds := Baseline.bounds_of_frame? hframe
  exact ⟨⟨hbounds.1, Int.le_trans hbounds.2 hle.frames⟩, (Baseline.within_frame? hframe).mono hle,
    Baseline.resolves_frame? hframe⟩

theorem proper_frameBase (hle : (Limits.ofVersion version).Le lim) {f : Frame} (hbase : frameBase version id = .ok f) :
    f.Proper lim id := by
  have htables := (Limits.tables_le version).trans hle
  obtain ⟨u, hcheck, rfl⟩ := exists_of_map_ok hbase
  cases hframe : Baseline.frame? id with
  | some f => exact proper_frame? htables hframe
  | none =>
      have hid : 0 ≤ id ∧ id ≤ lim.frames := by
        refine le_of_checkId hcheck htables.frames fun hextended => ?_
        rcases Limits.tables_or_raised version with heq | heq
        · rw [show (new version).limits = Limits.tables from heq] at hextended
          cases hextended
        · rw [heq] at hle
          exact hle.frames
      exact ⟨hid, within_neutralFrame htables hid, fun hne => absurd rfl hne⟩

theorem proper_weapon? (hle : Limits.tables.Le lim) {w : Weapon} (hweapon : Baseline.weapon? id = some w) :
    w.Proper lim id := by
  have hbounds := Baseline.bounds_of_at? hweapon
  rw [Baseline.size_weapons] at hbounds
  exact ⟨hbounds, (Baseline.within_weapon? hweapon).mono hle⟩

theorem proper_weaponBase (hle : Limits.tables.Le lim) {w : Weapon} (hbase : weaponBase id = .ok w) :
    w.Proper lim id := by
  unfold weaponBase at hbase
  split at hbase
  · next hweapon =>
    cases hbase
    exact proper_weapon? hle hweapon
  · cases hbase

theorem proper_ammo? {a : Ammo} (hammo : Baseline.ammo? id = some a) : a.Proper id := by
  have hall : ∀ a ∈ Baseline.ammo.toList, 0 ≤ a.max ∧ a.max ≤ AmmoField.maxAmount := by decide
  exact ⟨Baseline.bounds_of_at? hammo, hall a (Baseline.mem_of_at? hammo)⟩

theorem proper_ammoBase {a : Ammo} (hbase : ammoBase id = .ok a) : a.Proper id := by
  unfold ammoBase at hbase
  split at hbase
  · next hammo =>
    cases hbase
    exact proper_ammo? hammo
  · cases hbase

/-- A frame that can be read, from the overlay or from the tables, obeys the law of frames. -/
theorem Proper.frame? (hs : s.Proper lim) (hle : Limits.tables.Le lim) {f : Frame} (hframe : s.frame? id = some f) :
    f.Proper lim id := by
  rcases Option.or_eq_some_iff.1 hframe with hoverlay | ⟨-, htable⟩
  · exact hs.frames id f hoverlay
  · exact proper_frame? hle htable

theorem Proper.thing? (hs : s.Proper lim) (hle : Limits.tables.Le lim) {t : Thing} (hthing : s.thing? id = some t) :
    ThingField.table.Within lim t := by
  rcases Option.or_eq_some_iff.1 hthing with hoverlay | ⟨-, htable⟩
  · exact (hs.things id t hoverlay).2
  · exact (Baseline.within_thing? htable).mono hle

theorem Proper.weapon? (hs : s.Proper lim) (hle : Limits.tables.Le lim) {w : Weapon} (hweapon : s.weapon? id = some w) :
    w.Proper lim id := by
  rcases Option.or_eq_some_iff.1 hweapon with hoverlay | ⟨-, htable⟩
  · exact hs.weapons id w hoverlay
  · exact proper_weapon? hle htable

theorem Proper.ammo? (hs : s.Proper lim) {a : Ammo} (hammo : s.ammo? id = some a) : a.Proper id := by
  rcases Option.or_eq_some_iff.1 hammo with hoverlay | ⟨-, htable⟩
  · exact hs.ammo id a hoverlay
  · exact proper_ammo? htable

theorem bounds_of_soundBase (hle : (Limits.ofVersion version).Le lim) {snd : Sound}
    (hbase : soundBase version id = .ok snd) : 0 ≤ id ∧ id ≤ lim.sounds := by
  obtain ⟨u, hcheck, -⟩ := exists_of_map_ok hbase
  refine le_of_checkId hcheck ((Limits.tables_le version).trans hle).sounds fun hextended => ?_
  rcases Limits.tables_or_raised version with heq | heq
  · rw [show (new version).limits = Limits.tables from heq] at hextended
    cases hextended
  · rw [heq] at hle
    exact hle.sounds

end Session

/-! ### Changes keep the laws -/

/-- What a change must not do: break a law of the record that it alters. -/
def Change.Keeps (lim : Limits) : Change → Prop
  | .thing _ _ alter => ∀ t, ThingField.table.Within lim t → ThingField.table.Within lim (alter t)
  | .frame _ _ alter =>
    ∀ f, FrameField.table.Within lim f ∧ f.Resolves → FrameField.table.Within lim (alter f) ∧ (alter f).Resolves
  | .weapon _ _ alter => ∀ w, WeaponField.table.Within lim w → WeaponField.table.Within lim (alter w)
  | .ammo _ _ alter =>
    ∀ a, 0 ≤ a.max ∧ a.max ≤ AmmoField.maxAmount → 0 ≤ (alter a).max ∧ (alter a).max ≤ AmmoField.maxAmount
  | .sprite id _ => 0 ≤ id ∧ id ≤ lim.sprites
  | .warn _ | .misc _ _ | .sound _ _ _ | .text _ _ => True

namespace Session

open Overlay

variable {lim : Limits} {s : Session} {version id : Int} {c : Change}

theorem keeps_fieldChange {φ ρ : Type} {table : FieldTable φ ρ} {entity field : String} {value : Int}
    {change : String → (ρ → ρ) → Change}
    (hchange : ∀ f, table.validate f value s.limits = .ok () →
      (change (table.name f) (table.store f value)).Keeps lim) :
    (s.fieldChange table entity id field value change).Keeps lim := by
  unfold fieldChange
  cases hresolve : s.resolve table entity id field value with
  | error w => trivial
  | ok f => exact hchange f (resolve_validates hresolve)

theorem keeps_of_mem_bitsChanges {v : Vocabulary} {entity tokens : String} {change : UInt32 → Change}
    (hchange : ∀ word, (change word).Keeps lim) (hc : c ∈ bitsChanges v entity id tokens change) : c.Keeps lim := by
  unfold bitsChanges at hc
  obtain ⟨word, unknown⟩ := FlagExpression.parse v tokens
  rcases List.mem_append.1 hc with hc | hc
  · obtain ⟨w, -, rfl⟩ := List.mem_map.1 hc
    trivial
  · split at hc
    · cases hc
    · exact List.mem_singleton.1 hc ▸ hchange _

/-- No field holds the action, and the action refers to nothing else. -/
theorem keeps_actionChange {action : String} (haction : action ≠ "" → (CodePointer.ofAction? action).isSome) :
    (actionChange id action).Keeps lim := by
  rintro f ⟨hwithin, -⟩
  refine ⟨hwithin.congr fun field _ => ?_, haction⟩
  cases field <;> rfl

theorem keeps_storeFrame {f : Frame} {field : FrameField} {value : Int} (hle : s.limits.Le lim)
    (hvalid : FrameField.table.validate field value s.limits = .ok ())
    (hf : FrameField.table.Within lim f ∧ f.Resolves) :
    FrameField.table.Within lim (FrameField.table.store field value f) ∧
      (FrameField.table.store field value f).Resolves := by
  have hstores : FrameField.table.Stores s.limits f (FrameField.table.store field value f) :=
    ⟨field, value, hvalid, rfl⟩
  have haction := hstores.keeps Frame.action fun field v r => by cases field <;> rfl
  refine ⟨hf.1.store FrameField.apart FrameField.faithful hle hvalid, ?_⟩
  unfold Frame.Resolves
  rw [haction]
  exact hf.2

/-- The cap is part of writing the maximum. -/
theorem keeps_storeAmmo {a : Ammo} {field : AmmoField} {value : Int} {lim : Limits}
    (hvalid : AmmoField.table.validate field value lim = .ok ()) (ha : 0 ≤ a.max ∧ a.max ≤ AmmoField.maxAmount) :
    0 ≤ (AmmoField.table.store field value a).max ∧
      (AmmoField.table.store field value a).max ≤ AmmoField.maxAmount := by
  cases field with
  | per => exact ha
  | max =>
      have hnonneg : ¬ value < 0 := by
        intro hneg
        rw [FieldTable.validate, show AmmoField.table.kind .max = .nonNegative from rfl, FieldKind.validate,
          if_pos hneg] at hvalid
        cases hvalid
      have hmax : (AmmoField.table.store .max value a).max = min value AmmoField.maxAmount := rfl
      have hcap : (0 : Int) ≤ AmmoField.maxAmount := by decide
      rw [hmax]
      omega

theorem keeps_textChange (hle : Limits.tables.Le lim) (old new : String) : (textChange old new).Keeps lim := by
  unfold textChange
  cases hsprite : renamedSprite? old new with
  | some id =>
      have hbounds := Baseline.bounds_of_spriteIndex? (spriteIndex?_of_renamedSprite? hsprite)
      exact ⟨hbounds.1, Int.le_trans hbounds.2 hle.sprites⟩
  | none =>
      cases renamedSound? old new with
      | some id => trivial
      | none => cases Baseline.phraseRef? old <;> trivial

/-- All changes of an edit keep the laws.  A copied code pointer is one that some frame has, so it was found before. -/
theorem keeps_of_mem_changes (hs : s.Proper lim) (hle : s.limits.Le lim) {e : Edit} (hc : c ∈ s.changes e) :
    c.Keeps lim := by
  have htables := (Limits.tables_le s.version).trans hle
  cases e with
  | thingField id field value =>
      rw [List.mem_singleton.1 hc]
      refine keeps_fieldChange ?_
      intro f hvalid t ht
      exact ht.store ThingField.apart ThingField.faithful hle hvalid
  | thingBits id tokens =>
      rw [changes] at hc
      refine keeps_of_mem_bitsChanges ?_ hc
      intro word t ht
      refine ht.congr fun field hrefers => ?_
      cases field <;> first | rfl | cases hrefers
  | thingExtendedBits id tokens =>
      rw [changes] at hc
      refine keeps_of_mem_bitsChanges ?_ hc
      intro word t ht
      refine ht.congr fun field hrefers => ?_
      cases field <;> first | rfl | cases hrefers
  | frameField id field value =>
      rw [List.mem_singleton.1 hc]
      refine keeps_fieldChange ?_
      intro f hvalid r hr
      exact keeps_storeFrame hle hvalid hr
  | pointer id mnemonic =>
      rw [List.mem_singleton.1 hc, pointerChange]
      split
      · exact keeps_actionChange fun hne => absurd rfl hne
      · cases hlookup : CodePointer.lookup? mnemonic with
        | some p =>
            have hfound := CodePointer.ofAction?_action (CodePointer.mem_catalog_of_lookup? hlookup)
            exact keeps_actionChange fun _ => hfound
        | none => trivial
  | pointerCopy id source =>
      rw [List.mem_singleton.1 hc, copyChange]
      cases hsource : s.frame? source with
      | none => trivial
      | some f => exact keeps_actionChange (hs.frame? htables hsource).2.2
  | weaponField id field value =>
      rw [List.mem_singleton.1 hc]
      refine keeps_fieldChange ?_
      intro f hvalid w hw
      exact hw.store WeaponField.apart WeaponField.faithful hle hvalid
  | weaponBits id tokens =>
      rw [changes] at hc
      refine keeps_of_mem_bitsChanges ?_ hc
      intro word w hw
      refine hw.congr fun field hrefers => ?_
      cases field <;> first | rfl | cases hrefers
  | ammoField id field value =>
      rw [List.mem_singleton.1 hc]
      refine keeps_fieldChange ?_
      intro f hvalid a ha
      exact keeps_storeAmmo hvalid ha
  | miscField id field value =>
      rw [List.mem_singleton.1 hc, miscChange]
      cases s.resolve MiscField.table "misc" id field value <;> trivial
  | soundField id field value =>
      rw [List.mem_singleton.1 hc]
      exact keeps_fieldChange fun _ _ => trivial
  | text old new =>
      rw [List.mem_singleton.1 hc]
      exact keeps_textChange htables old new
  | phrase mnemonic new =>
      rw [List.mem_singleton.1 hc, phraseChange]
      cases Baseline.mnemonicRef? mnemonic <;> trivial
  | unknown kind => cases hc

/-- Beside the record that it alters, a change writes to things nothing that refers. -/
theorem keeps_of_mem_thingWrites (hkeeps : c.Keeps lim) {w : Write Thing} (hw : w ∈ s.thingWrites c) (t : Thing)
    (ht : t.Proper lim w.id) : (w.alter t).Proper lim w.id := by
  cases c with
  | thing id field alter =>
      rw [List.mem_singleton.1 hw] at ht ⊢
      exact ⟨ht.1, hkeeps t ht.2⟩
  | frame id field alter =>
      simp only [thingWrites] at hw
      split at hw
      · exact keeps_of_mem_touches hw t ht
      · cases hw
  | ammo id field alter =>
      simp only [thingWrites] at hw
      split at hw
      · exact keeps_of_mem_touches hw t ht
      · cases hw
  | sprite id name => exact keeps_of_mem_touches hw t ht
  | misc field value =>
      rcases List.mem_append.1 hw with hw | hw
      · exact keeps_of_mem_touches hw t ht
      · split at hw
        · rw [List.mem_singleton.1 hw] at ht ⊢
          refine ⟨ht.1, ht.2.congr fun field hrefers => ?_⟩
          cases field <;> first | rfl | cases hrefers
        · split at hw
          · exact keeps_of_mem_touches hw t ht
          · cases hw
        · cases hw
  | _ => cases hw

theorem keeps_of_mem_weaponWrites (hkeeps : c.Keeps lim) {w : Write Weapon} (hw : w ∈ s.weaponWrites c) (r : Weapon)
    (hr : r.Proper lim w.id) : (w.alter r).Proper lim w.id := by
  cases c with
  | weapon id field alter =>
      rw [List.mem_singleton.1 hw] at hr ⊢
      exact ⟨hr.1, hkeeps r hr.2⟩
  | frame id field alter =>
      simp only [weaponWrites] at hw
      split at hw
      · exact keeps_of_mem_touches hw r hr
      · cases hw
  | sprite id name => exact keeps_of_mem_touches hw r hr
  | misc field value =>
      simp only [weaponWrites, miscWeaponWrites] at hw
      split at hw
      · rw [List.mem_singleton.1 hw] at hr ⊢
        refine ⟨hr.1, hr.2.congr fun field hrefers => ?_⟩
        cases field <;> first | rfl | cases hrefers
      · cases hw
  | _ => cases hw

/-- A change that keeps the laws leaves a session that obeys them. -/
theorem Proper.carry (hs : s.Proper lim) (hle : s.limits.Le lim) (hkeeps : c.Keeps lim) : (s.carry c).Proper lim := by
  have htables := (Limits.tables_le s.version).trans hle
  constructor
  · rw [things_carry]
    exact hs.things.rewriteAll (fun _ _ => proper_thingBase hle) fun _ => keeps_of_mem_thingWrites hkeeps
  · rw [frames_carry]
    refine hs.frames.rewriteAll (fun _ _ => proper_frameBase hle) fun w hw f hf => ?_
    cases c with
    | frame id field alter =>
        rw [List.mem_singleton.1 hw] at hf ⊢
        exact ⟨hf.1, hkeeps f hf.2⟩
    | _ => cases hw
  · rw [weapons_carry]
    exact hs.weapons.rewriteAll (fun _ _ => proper_weaponBase htables) fun _ => keeps_of_mem_weaponWrites hkeeps
  · rw [ammo_carry]
    refine hs.ammo.rewriteAll (fun _ _ => proper_ammoBase) fun w hw a ha => ?_
    cases c with
    | ammo id field alter =>
        rw [List.mem_singleton.1 hw] at ha ⊢
        exact ⟨ha.1, hkeeps a ha.2⟩
    | _ => cases hw
  · rw [sounds_carry]
    exact hs.sounds.rewriteAll (fun _ _ => bounds_of_soundBase hle) fun _ _ _ hid => hid
  · rw [sprites_carry]
    cases c with
    | sprite id name => exact hs.sprites.insert hkeeps
    | _ => exact hs.sprites

/-- The version, and so the limits, stay the same while the changes of an edit are carried out. -/
theorem Proper.carryAll {cs : List Change} (hs : s.Proper lim) (hle : s.limits.Le lim)
    (hkeeps : ∀ c ∈ cs, c.Keeps lim) : (s.carryAll cs).Proper lim ∧ (s.carryAll cs).version = s.version := by
  induction cs generalizing s with
  | nil => exact ⟨hs, rfl⟩
  | cons c cs ih =>
      have hversion := version_carry s c
      have hle' : (s.carry c).limits.Le lim := by
        unfold limits
        rw [hversion]
        exact hle
      have hrest := ih (hs.carry hle (hkeeps c List.mem_cons_self)) hle' fun c' hc' =>
        hkeeps c' (List.mem_cons_of_mem _ hc')
      exact ⟨hrest.1, hrest.2.trans hversion⟩

theorem Proper.apply (hs : s.Proper lim) (hle : s.limits.Le lim) {s' : Session} {e : Edit}
    (happly : s.apply e = .ok s') :
    s'.Proper lim ∧ s'.version = s.version := by
  rw [apply_eq_carryAll happly]
  exact hs.carryAll hle fun _ => keeps_of_mem_changes hs hle

/-! ### Histories -/

/-- The sessions that can be reached, with the versions that they ever had. -/
inductive History : List Int → Session → Prop
  | new (version : Int) : History [version] (new version)
  | apply {versions : List Int} {s s' : Session} {e : Edit} (hs : History versions s) (happly : s.apply e = .ok s') :
      History versions s'
  | setVersion {versions : List Int} {s : Session} (hs : History versions s) (version : Int) :
      History (version :: versions) (s.setVersion version)
  | reset {versions : List Int} {s : Session} (hs : History versions s) : History versions s.reset

/-- Every session that can be reached has a history. -/
theorem reachable_iff_history : Reachable s ↔ ∃ versions, History versions s := by
  constructor
  · intro hs
    induction hs with
    | new version => exact ⟨_, .new version⟩
    | apply hs happly ih => exact ih.imp fun _ h => .apply h happly
    | setVersion hs version ih => exact ih.elim fun _ h => ⟨_, .setVersion h version⟩
    | reset hs ih => exact ih.imp fun _ h => .reset h
  · rintro ⟨versions, hs⟩
    induction hs with
    | new version => exact .new version
    | apply hs happly ih => exact .apply ih happly
    | setVersion hs version ih => exact .setVersion ih version
    | reset hs ih => exact .reset ih

theorem history_applyAll {versions : List Int} (hs : History versions s) (edits : List Edit) :
    History versions (s.applyAll edits).1 := by
  induction edits generalizing s with
  | nil => exact hs
  | cons e edits ih =>
      unfold applyAll
      cases happly : s.apply e with
      | ok s' => exact ih (hs.apply happly)
      | error err => exact hs

/-- The laws hold under any limits that no version of the history exceeds. -/
theorem History.proper {versions : List Int} (hs : History versions s)
    (hle : ∀ v ∈ versions, (Limits.ofVersion v).Le lim) : s.version ∈ versions ∧ s.Proper lim := by
  induction hs with
  | new version => exact ⟨List.mem_singleton_self _, proper_new version⟩
  | apply hs happly ih =>
      obtain ⟨hversion, hproper⟩ := ih hle
      have hstep := hproper.apply (hle _ hversion) happly
      exact ⟨hstep.2 ▸ hversion, hstep.1⟩
  | setVersion hs version ih =>
      obtain ⟨-, hproper⟩ := ih fun v hv => hle v (List.mem_cons_of_mem _ hv)
      exact ⟨List.mem_cons_self, ⟨hproper.1, hproper.2, hproper.3, hproper.4, hproper.5, hproper.6⟩⟩
  | reset hs ih => exact ⟨(ih hle).1, proper_new _⟩

end Session

/-! ### Where references lead -/

/-- A chain that stops at the null frame, or where it returns to one of its own frames; never at a missing one. -/
def Reel.Unbroken (r : Reel) (start : Int) : Prop :=
  (start = 0 ∨ start ∈ r.chain start) ∧
    ∀ id ∈ r.chain start, ∀ f, r.frame? id = some f → f.next = 0 ∨ f.next ∈ r.chain start

/-- Where the start exists and every frame names one that exists, no chain breaks off. -/
theorem Reel.unbroken_of_isSome {r : Reel} (hnext : ∀ id f, r.frame? id = some f → (r.frame? f.next).isSome)
    {start : Int} (hstart : (r.frame? start).isSome) : r.Unbroken start := by
  have hstops : ∀ id, (r.frame? id).isSome → r.Beside start id → id = 0 ∨ id ∈ r.chain start := by
    rintro id hframe (hmem | hzero | hnone)
    · exact .inr hmem
    · exact .inl hzero
    · rw [hnone] at hframe
      cases hframe
  refine ⟨hstops start hstart (r.beside_start start), fun id hmem f hframe => ?_⟩
  exact hstops f.next (hnext id f hframe) (beside_next hmem hframe)

namespace Session

variable {lim : Limits} {s : Session}

/-- What all references of the records of a session are to. -/
structure Refers (s : Session) (frame sound sprite : Int → Prop) : Prop where
  next : ∀ id f, s.frame? id = some f → frame f.next
  sprite : ∀ id f, s.frame? id = some f → sprite f.sprite
  thingStart : ∀ id t, s.thing? id = some t → ∀ role ∈ Role.ofThing, frame (t.start role)
  thingSound : ∀ id t, s.thing? id = some t → ∀ n ∈ t.sounds, sound n
  weaponStart : ∀ id w, s.weapon? id = some w → ∀ role ∈ Role.ofWeapon, frame (w.start role)

/-- The ranges that hold in every version: those of the numbers that are modified, and those of all values of a
record that stand for something else than a frame, a sound or a sprite. -/
structure Ranged (s : Session) : Prop where
  things : ∀ id ∈ s.things.keys, 0 ≤ id ∧ id ≤ 32767
  frames : ∀ id ∈ s.frames.keys, 0 ≤ id ∧ id ≤ 32767
  weapons : ∀ id ∈ s.weapons.keys, 0 ≤ id ∧ id ≤ 8
  ammo : ∀ id ∈ s.ammo.keys, 0 ≤ id ∧ id ≤ 3
  sounds : ∀ id ∈ s.sounds.keys, 0 ≤ id ∧ id ≤ 32767
  sprites : ∀ id ∈ s.sprites.keys, 0 ≤ id ∧ id ≤ 32767
  subSprite : ∀ id f, s.frame? id = some f → 0 ≤ f.subSprite ∧ f.subSprite ≤ 31
  action : ∀ id f, s.frame? id = some f → f.action ≠ "" → (CodePointer.ofAction? f.action).isSome
  weaponAmmo : ∀ id w, s.weapon? id = some w → 0 ≤ w.ammo ∧ w.ammo ≤ 5
  ammoMax : ∀ id a, s.ammo? id = some a → 0 ≤ a.max ∧ a.max ≤ 10000

theorem Refers.imp {frame sound sprite frame' sound' sprite' : Int → Prop} (hs : s.Refers frame sound sprite)
    (hframe : ∀ n, frame n → frame' n) (hsound : ∀ n, sound n → sound' n) (hsprite : ∀ n, sprite n → sprite' n) :
    s.Refers frame' sound' sprite' where
  next id f h := hframe _ (hs.next id f h)
  sprite id f h := hsprite _ (hs.sprite id f h)
  thingStart id t h role hrole := hframe _ (hs.thingStart id t h role hrole)
  thingSound id t h n hn := hsound _ (hs.thingSound id t h n hn)
  weaponStart id w h role hrole := hframe _ (hs.weaponStart id w h role hrole)

/-- References are within the limits that the laws speak of. -/
theorem Proper.refers (hs : s.Proper lim) (hle : Limits.tables.Le lim) :
    s.Refers (fun n => 0 ≤ n ∧ n ≤ lim.frames) (fun n => 0 ≤ n ∧ n ≤ lim.sounds)
      (fun n => 0 ≤ n ∧ n ≤ lim.sprites) where
  next id f hframe := (hs.frame? hle hframe).2.1 .next
  sprite id f hframe := (hs.frame? hle hframe).2.1 .sprite
  thingStart id t hthing role hrole := by
    have hwithin := hs.thing? hle hthing
    simp only [Role.ofThing, List.mem_cons, List.not_mem_nil, or_false] at hrole
    rcases hrole with rfl | rfl | rfl | rfl | rfl | rfl | rfl | rfl
    · exact hwithin .spawn
    · exact hwithin .see
    · exact hwithin .melee
    · exact hwithin .missile
    · exact hwithin .pain
    · exact hwithin .death
    · exact hwithin .xdeath
    · exact hwithin .raise
  thingSound id t hthing n hn := by
    have hwithin := hs.thing? hle hthing
    simp only [Thing.sounds, List.mem_cons, List.not_mem_nil, or_false] at hn
    rcases hn with rfl | rfl | rfl | rfl | rfl | rfl
    · exact hwithin .seeSound
    · exact hwithin .attackSound
    · exact hwithin .painSound
    · exact hwithin .deathSound
    · exact hwithin .activeSound
    · exact hwithin .ripSound
  weaponStart id w hweapon role hrole := by
    have hwithin := (hs.weapon? hle hweapon).2
    simp only [Role.ofWeapon, List.mem_cons, List.not_mem_nil, or_false] at hrole
    rcases hrole with rfl | rfl | rfl | rfl | rfl
    · exact hwithin .up
    · exact hwithin .down
    · exact hwithin .ready
    · exact hwithin .attack
    · exact hwithin .flash

theorem Proper.ranged (hs : s.Proper Limits.raised) : s.Ranged where
  things id hid := (hs.things.of_mem_keys hid).elim fun _ h => h.1
  frames id hid := (hs.frames.of_mem_keys hid).elim fun _ h => h.1
  weapons id hid := (hs.weapons.of_mem_keys hid).elim fun _ h => by
    have hnum : (Baseline.numWeapons : Int) = 9 := rfl
    have hid := h.1
    omega
  ammo id hid := (hs.ammo.of_mem_keys hid).elim fun _ h => by
    have hnum : (Baseline.numAmmo : Int) = 4 := rfl
    have hid := h.1
    omega
  sounds id hid := (hs.sounds.of_mem_keys hid).elim fun _ h => h
  sprites id hid := (hs.sprites.of_mem_keys hid).elim fun _ h => h
  subSprite id f hframe := (hs.frame? Limits.tables_le_raised hframe).2.1 .picture
  action id f hframe := (hs.frame? Limits.tables_le_raised hframe).2.2
  weaponAmmo id w hweapon := (hs.weapon? Limits.tables_le_raised hweapon).2 .ammo
  ammoMax id a hammo := (hs.ammo? hammo).2

/-- Whatever edits, versions and resets a session went through, its numbers and references are in range.  As long as no
version raised the limits, every reference is to an entry of the tables, and no chain stops at a missing frame. -/
theorem History.references_in_range {versions : List Int} (hs : History versions s) :
    s.Ranged ∧
      s.Refers (fun n => 0 ≤ n ∧ n ≤ 32767) (fun n => 0 ≤ n ∧ n ≤ 32767) (fun n => 0 ≤ n ∧ n ≤ 32767) ∧
      ((∀ v ∈ versions, v < 2021) →
        s.Refers (fun n => (Baseline.frame? n).isSome) (fun n => (Baseline.sound? n).isSome)
            (fun n => (Baseline.sprite? n).isSome) ∧
          ∀ start, (Baseline.frame? start).isSome → s.reel.Unbroken start) := by
  obtain ⟨-, hraised⟩ := hs.proper fun v _ => Limits.le_raised v
  refine ⟨hraised.ranged, hraised.refers Limits.tables_le_raised, fun hold => ?_⟩
  -- Without extended limits the same laws hold under those of the tables.
  have hlimits : ∀ v ∈ versions, (Limits.ofVersion v).Le Limits.tables := by
    intro v hv
    rw [Limits.ofVersion_of_lt (hold v hv)]
    exact Limits.Le.refl _
  obtain ⟨-, htables⟩ := hs.proper hlimits
  have hrefers := (htables.refers (Limits.Le.refl _)).imp (fun _ => Baseline.isSome_frame?_of_le)
    (fun _ => Baseline.isSome_sound?_of_le) (fun _ => Baseline.isSome_sprite?_of_le)
  have hexists : ∀ n, (Baseline.frame? n).isSome → (s.reel.frame? n).isSome := by
    intro n hn
    change ((s.frames.get? n).or (Baseline.frame? n)).isSome
    rw [Option.isSome_or, hn, Bool.or_true]
  refine ⟨hrefers, fun start hstart => Reel.unbroken_of_isSome ?_ (hexists start hstart)⟩
  exact fun id f hframe => hexists f.next (hrefers.next id f hframe)

/-- A trooper dies into a frame whose follower and action are patched, and its sprite is renamed. -/
theorem references_in_range_trooper :
    let s := patched 19 [.thingField 2 "Death frame" 187, .frameField 187 "Next frame" 966, .pointerCopy 187 188,
      .text "POSS" "ZOMB"]
    History [19] s ∧ (∀ v ∈ [(19 : Int)], v < 2021) ∧
      s.Refers (fun n => (Baseline.frame? n).isSome) (fun n => (Baseline.sound? n).isSome)
          (fun n => (Baseline.sprite? n).isSome) ∧
      s.reel.Unbroken 187 := by
  intro s
  have hs : History [19] s := history_applyAll (.new 19) _
  have hold : ∀ v ∈ [(19 : Int)], v < 2021 := by decide
  have hrefers := hs.references_in_range.2.2 hold
  exact ⟨hs, hold, hrefers.1, hrefers.2 187 (Baseline.isSome_frame?_of_le (by decide))⟩

end Session
end DoomPatch
