import DoomPatch.Proofs.Chain.Locality
import DoomPatch.Proofs.Session.Move
import DoomPatch.Proofs.Session.Overlay

/-!
# Untouched chains

Marks are set when a frame or a sprite changes, by walking the chains as they are after the change.  This is
enough: an entity that was never marked still has the chains of the unpatched game, and nothing on them was
written since.

* `Undisturbed` — a chain is the one of the unpatched game, with no frame modified and no sprite renamed.
* `Clean` — the chains of all unmodified entities are undisturbed.
* `Clean.move` — every move keeps this.
* `Reachable.untouched_chains` — it holds of every session that can be reached.
-/

namespace DoomPatch

/-- The frames of the unpatched game. -/
def Baseline.reel : Reel where
  frame? := Baseline.frame?
  capacity := Baseline.frames.size
  finite := ⟨(List.range Baseline.frames.size).map Int.ofNat, by simp,
    fun _ hframe => Session.mem_positions_of_at?_isSome (by simpa [Baseline.frame?] using hframe)⟩

namespace Session

theorem reel_new_chain (version start : Int) : (new version).reel.chain start = Baseline.reel.chain start :=
  Reel.chain_eq_of_frame?_eq fun _ _ _ => rfl

/-- The frames from a start are those of the unpatched game: no record of them is modified, and no sprite they
show is renamed. -/
structure Undisturbed (s : Session) (start : Int) : Prop where
  /-- The chain is the one of the unpatched game. -/
  chain_eq : s.reel.chain start = Baseline.reel.chain start
  /-- No frame of it is modified. -/
  unmodified : ∀ id ∈ s.reel.chain start, s.frames.get? id = none
  /-- No sprite of its frames is renamed. -/
  unrenamed : ∀ id ∈ s.reel.chain start, ∀ f, s.frame? id = some f → s.isRenamed f.sprite = false

/-- The chains of a group of entities with an overlay: `starts` are the starts of the record of a number. -/
def Keeps {α : Type} (s : Session) (overlay : SortedMap Int α) (starts : Int → Int → Prop) : Prop :=
  ∀ id, overlay.get? id = none → ∀ start, starts id start → s.Undisturbed start

/-- A start of a role of a thing of the unpatched game. -/
def ThingStart (id start : Int) : Prop :=
  ∃ t, Baseline.thing? id = some t ∧ ∃ role ∈ Role.ofThing, start = t.start role

/-- A start of a role of a weapon of the unpatched game. -/
def WeaponStart (id start : Int) : Prop :=
  ∃ w, Baseline.weapon? id = some w ∧ ∃ role ∈ Role.ofWeapon, start = w.start role

/-- The chains of all unmodified entities are undisturbed. -/
structure Clean (s : Session) : Prop where
  /-- Those of the things. -/
  things : s.Keeps s.things ThingStart
  /-- Those of the weapons. -/
  weapons : s.Keeps s.weapons WeaponStart

/-! ### Single chains -/

/-- A chain is undisturbed in the unpatched game. -/
theorem undisturbed_new (version start : Int) : (new version).Undisturbed start where
  chain_eq := reel_new_chain version start
  unmodified := fun _ _ => rfl
  unrenamed := fun _ _ _ _ => rfl

/-- What is read does not depend on anything but frames and sprite names. -/
theorem Undisturbed.congr {s s' : Session} {start : Int} (hstart : s.Undisturbed start)
    (hframes : s'.frames = s.frames) (hsprites : s'.sprites = s.sprites) : s'.Undisturbed start := by
  have hframe? : s'.frame? = s.frame? := by
    unfold frame?
    rw [hframes]
  have hchain : s'.reel.chain start = s.reel.chain start :=
    Reel.chain_eq_of_frame?_eq fun id _ _ => congrFun hframe? id
  constructor
  · exact hchain.trans hstart.chain_eq
  · intro id hmem
    rw [hchain] at hmem
    rw [hframes]
    exact hstart.unmodified id hmem
  · intro id hmem f hf
    rw [hchain] at hmem
    rw [hframe?] at hf
    unfold isRenamed
    rw [hsprites]
    exact hstart.unrenamed id hmem f hf

/-- A frame that is written off a chain disturbs nothing.  It is enough to look at the chain afterwards: a
frame that the write brought into the chain would be on it. -/
theorem Undisturbed.putFrame {s : Session} {start : Int} (hstart : s.Undisturbed start) {id : Int} {f : Frame}
    (hoff : id ∉ (s.putFrame id f).reel.chain start) : (s.putFrame id f).Undisturbed start := by
  have hsame : ∀ i, i ≠ id → s.frame? i = (s.putFrame id f).frame? i := by
    intro i hne
    rw [frame?_putFrame, if_neg hne]
  have hchain : s.reel.chain start = (s.putFrame id f).reel.chain start := by
    refine Reel.chain_eq_of_frame?_eq fun i hbeside hnull => hsame i ?_
    -- The number written is neither on the chain nor one that is missing.
    rintro rfl
    rcases hbeside with hmem | hzero | hnone
    · exact hoff hmem
    · exact hnull hzero
    · have hwritten : (s.putFrame i f).frame? i = some f := by
        rw [frame?_putFrame, if_pos rfl]
      rw [show (s.putFrame i f).frame? i = none from hnone] at hwritten
      cases hwritten
  have hne : ∀ i ∈ (s.putFrame id f).reel.chain start, i ≠ id := by
    rintro i hmem rfl
    exact hoff hmem
  constructor
  · rw [← hchain]
    exact hstart.chain_eq
  · intro i hmem
    have hold := hstart.unmodified i (by rw [hchain]; exact hmem)
    unfold Session.putFrame
    rw [SortedMap.get?_insert, if_neg (hne i hmem)]
    exact hold
  · intro i hmem g hg
    rw [← hsame i (hne i hmem)] at hg
    exact hstart.unrenamed i (by rw [hchain]; exact hmem) g hg

/-- A sprite that is renamed off a chain disturbs nothing. -/
theorem Undisturbed.rename {s : Session} {start : Int} (hstart : s.Undisturbed start) {sprite : Int}
    {name : String}
    (hoff : ∀ id ∈ s.reel.chain start, ((s.frame? id).any fun f => f.sprite == sprite) = false) :
    ({ s with sprites := s.sprites.insert sprite name } : Session).Undisturbed start := by
  constructor
  · exact hstart.chain_eq
  · exact hstart.unmodified
  · intro id hmem f hf
    have hne : f.sprite ≠ sprite := by
      have hfalse := hoff id hmem
      rw [show s.frame? id = some f from hf] at hfalse
      simpa using hfalse
    have hold := hstart.unrenamed id hmem f hf
    unfold isRenamed SortedMap.contains at hold ⊢
    rw [SortedMap.get?_insert, if_neg hne]
    exact hold

/-! ### All unmodified entities -/

/-- Marks alone, and records that are not read by chains, keep the chains clean. -/
theorem Clean.grow {s s' : Session} (hclean : s.Clean) (hframes : s'.frames = s.frames)
    (hsprites : s'.sprites = s.sprites) (hthings : Grows s.things s'.things)
    (hweapons : Grows s.weapons s'.weapons) : s'.Clean where
  things := fun id hid start hstart =>
    (hclean.things id (hthings.get?_eq_none hid) start hstart).congr hframes hsprites
  weapons := fun id hid start hstart =>
    (hclean.weapons id (hweapons.get?_eq_none hid) start hstart).congr hframes hsprites

/-- A change that marks its users keeps the chains clean, if it disturbs only chains of users. -/
theorem Clean.touchUsers {s s' : Session} {uses : List Int → Bool} (hclean : s.Clean)
    (hthings : s'.things = s.things) (hweapons : s'.weapons = s.weapons)
    (hkeep : ∀ chains start, uses chains = false → (∀ id ∈ s'.reel.chain start, id ∈ chains) →
      s.Undisturbed start → s'.Undisturbed start) :
    (s'.touchUsers uses).Clean := by
  have hmarks := Marks.touchUsers s' uses
  constructor
  · rintro id hid start ⟨t, hbase, role, hrole, rfl⟩
    have hold : s.things.get? id = none := by
      rw [← hthings]
      exact hmarks.things.get?_eq_none hid
    have hfree := uses_eq_false_of_thing hid hbase
    -- Users are looked up after the change, so what it put on a chain of the thing was seen.
    have hsub : ∀ i ∈ s'.reel.chain (t.start role), i ∈ s'.thingChains t :=
      fun i hmem => List.mem_flatMap.2 ⟨role, hrole, hmem⟩
    have hstart := hclean.things id hold _ ⟨t, hbase, role, hrole, rfl⟩
    exact (hkeep _ _ hfree hsub hstart).congr hmarks.frames_eq hmarks.sprites_eq
  · rintro id hid start ⟨w, hbase, role, hrole, rfl⟩
    have hold : s.weapons.get? id = none := by
      rw [← hweapons]
      exact hmarks.weapons.get?_eq_none hid
    have hfree := uses_eq_false_of_weapon hid hbase
    have hsub : ∀ i ∈ s'.reel.chain (w.start role), i ∈ s'.weaponChains w :=
      fun i hmem => List.mem_flatMap.2 ⟨role, hrole, hmem⟩
    have hstart := hclean.weapons id hold _ ⟨w, hbase, role, hrole, rfl⟩
    exact (hkeep _ _ hfree hsub hstart).congr hmarks.frames_eq hmarks.sprites_eq

theorem clean_new (version : Int) : (new version).Clean where
  things := fun _ _ start _ => undisturbed_new version start
  weapons := fun _ _ start _ => undisturbed_new version start

theorem Clean.frame {s : Session} (hclean : s.Clean) (id : Int) (f : Frame) :
    ((s.putFrame id f).touchFrameUsers id).Clean := by
  refine hclean.touchUsers rfl rfl ?_
  intro chains start hfree hsub hstart
  apply hstart.putFrame
  intro hmem
  have hcontains : chains.contains id = true := List.contains_iff_mem.2 (hsub id hmem)
  rw [hfree] at hcontains
  cases hcontains

theorem Clean.sprite {s : Session} (hclean : s.Clean) (id : Int) (name : String) :
    (({ s with sprites := s.sprites.insert id name } : Session).touchSpriteUsers id).Clean := by
  refine hclean.touchUsers rfl rfl ?_
  intro chains start hfree hsub hstart
  apply hstart.rename
  intro i hmem
  exact Bool.eq_false_iff.2 (List.any_eq_false.1 hfree i (hsub i hmem))

/-- Every move keeps the chains of unmodified entities undisturbed. -/
theorem Clean.move {s s' : Session} (hclean : s.Clean) (hmove : Move s s') : s'.Clean := by
  cases hmove with
  | warn w => exact hclean.grow rfl rfl (Grows.refl _) (Grows.refl _)
  | thing id t t' => exact hclean.grow rfl rfl (Grows.insert _ _ _) (Grows.refl _)
  | frame id f f' => exact hclean.frame id f'
  | weapon id w w' => exact hclean.grow rfl rfl (Grows.refl _) (Grows.insert _ _ _)
  | ammo id a a' =>
      have hmarks := Marks.touchThings (s.putAmmo id a') (ammoUsers id)
      exact hclean.grow hmarks.frames_eq hmarks.sprites_eq hmarks.things hmarks.weapons
  | misc f v =>
      have hmarks := Marks.touchMiscUsers
        { s with misc := MiscField.table.store f v s.misc, miscModified := true } f v
      exact hclean.grow hmarks.frames_eq hmarks.sprites_eq hmarks.things hmarks.weapons
  | sound id snd snd' => exact hclean.grow rfl rfl (Grows.refl _) (Grows.refl _)
  | sprite id name => exact hclean.sprite id name
  | text ref value => exact hclean.grow rfl rfl (Grows.refl _) (Grows.refl _)

theorem Reachable.clean {s : Session} (hs : Reachable s) : s.Clean :=
  hs.invariant clean_new (fun _ _ hclean hmove => hclean.move hmove)
    (fun _ _ hclean => hclean.grow rfl rfl (Grows.refl _) (Grows.refl _))

/-- In every session that can be reached, an existing thing or weapon that is not modified has the record of
the unpatched game, and all its chains are undisturbed. -/
theorem Reachable.untouched_chains {s : Session} (hs : Reachable s) :
    (∀ id t, s.thing? id = some t → s.things.contains id = false →
      Baseline.thing? id = some t ∧ ∀ role ∈ Role.ofThing, s.Undisturbed (t.start role)) ∧
    (∀ id w, s.weapon? id = some w → s.weapons.contains id = false →
      Baseline.weapon? id = some w ∧ ∀ role ∈ Role.ofWeapon, s.Undisturbed (w.start role)) := by
  have hclean := hs.clean
  constructor
  · intro id t hthing hid
    have hnone : s.things.get? id = none := by simpa [SortedMap.contains] using hid
    have hbase : Baseline.thing? id = some t := (thing?_of_get?_eq_none hnone).symm.trans hthing
    exact ⟨hbase, fun role hrole => hclean.things id hnone _ ⟨t, hbase, role, hrole, rfl⟩⟩
  · intro id w hweapon hid
    have hnone : s.weapons.get? id = none := by simpa [SortedMap.contains] using hid
    have hbase : Baseline.weapon? id = some w := (weapon?_of_get?_eq_none hnone).symm.trans hweapon
    exact ⟨hbase, fun role hrole => hclean.weapons id hnone _ ⟨w, hbase, role, hrole, rfl⟩⟩

/-- A thing and a weapon beside the ones that two edits change. -/
theorem untouched_chains_beside_edits :
    ∃ s, s = patched 21 [.thingField 2 "Hit points" 500, .weaponField 1 "Ammo type" 1] ∧ Reachable s ∧
      (s.things.contains 2 = true ∧ s.things.contains 1 = false) ∧
      (s.weapons.contains 1 = true ∧ s.weapons.contains 2 = false) ∧
      ((s.thing? 1).isSome ∧ ∀ t, s.thing? 1 = some t →
        Baseline.thing? 1 = some t ∧ ∀ role ∈ Role.ofThing, s.Undisturbed (t.start role)) ∧
      ((s.weapon? 2).isSome ∧ ∀ w, s.weapon? 2 = some w →
        Baseline.weapon? 2 = some w ∧ ∀ role ∈ Role.ofWeapon, s.Undisturbed (w.start role)) := by
  have hs := reachable_patched 21 [.thingField 2 "Hit points" 500, .weaponField 1 "Ammo type" 1]
  refine ⟨_, rfl, hs, by decide, by decide, ⟨by set_option maxRecDepth 4000 in decide, ?_⟩, ⟨by decide, ?_⟩⟩
  · exact fun t ht => hs.untouched_chains.1 1 t ht (by decide)
  · exact fun w hw => hs.untouched_chains.2 2 w hw (by decide)

end Session
end DoomPatch
