import DoomPatch.Proofs.Chain.Reach
import DoomPatch.Proofs.Session.Marked

/-!
# Users of a frame, a sprite or a global value

A thing uses a frame when one of its animations shows it, and a sprite when one of its animations shows a frame
with that sprite.  Touching changes no record that can be read, so it changes nobody's frames.

* `ThingShows`, `WeaponShows` — an animation of the entity contains a frame.
* `ThingWears`, `WeaponWears` — an animation of the entity contains a frame with a sprite.
* `IsMonster` — the record alone makes a thing a monster.
* `mem_thingsWith`, `mem_weaponsWith` — who is found when users are looked for.
* `thing?_touchThings`, `weapon?_touchWeapons`, `thingShows_touchUsers`, … — touching is not read.
* `thingShows_putFrame`, `weaponShows_putFrame` — a new record of a frame has the users of the old one.
-/

namespace DoomPatch
namespace Session

variable {s s' : Session} {id : Int}

/-! ### Existing things -/

theorem lt_numThings (hid : (s.things.get? id).isSome) : id < s.numThings := by
  have hfold : ∀ (keys : List Int) (n : Int), n ≤ keys.foldl (fun n id => if n ≤ id then id + 1 else n) n ∧
      ∀ key ∈ keys, key < keys.foldl (fun n id => if n ≤ id then id + 1 else n) n := by
    intro keys
    induction keys with
    | nil => exact fun n => ⟨Int.le_refl n, by simp⟩
    | cons key keys ih =>
        intro n
        rw [List.foldl_cons]
        obtain ⟨hle, hlt⟩ := ih (if n ≤ key then key + 1 else n)
        -- One step of the fold is past both the bound before and the key.
        have hstep : n ≤ (if n ≤ key then key + 1 else n) ∧ key < (if n ≤ key then key + 1 else n) := by
          split <;> omega
        refine ⟨by omega, ?_⟩
        intro i hi
        rcases List.mem_cons.1 hi with rfl | hi
        · omega
        · exact hlt i hi
  exact (hfold _ _).2 id ((SortedMap.mem_keys_iff _ _).2 hid)

/-- The numbers that are gone through are those of the existing things, negative ones left out. -/
theorem mem_thingIds : id ∈ s.thingIds ↔ 0 ≤ id ∧ (s.thing? id).isSome := by
  unfold thingIds
  rw [List.mem_filter, List.mem_map]
  constructor
  · rintro ⟨⟨n, -, rfl⟩, hexists⟩
    exact ⟨Int.natCast_nonneg n, hexists⟩
  · rintro ⟨hnonneg, hexists⟩
    have hlt : id < s.numThings := by
      cases hget : s.things.get? id with
      | some t => exact lt_numThings (by rw [hget]; rfl)
      | none =>
          rw [thing?_of_get?_eq_none hget] at hexists
          obtain ⟨t, hbase⟩ := Option.isSome_iff_exists.1 hexists
          have hbounds := Baseline.bounds_of_at? hbase
          rw [Baseline.size_things] at hbounds
          have hle := s.le_numThings
          omega
    exact ⟨⟨id.toNat, List.mem_range.2 (by omega), Int.toNat_of_nonneg hnonneg⟩, hexists⟩

/-! ### Users -/

/-- An animation of a thing contains a frame. -/
def ThingShows (s : Session) (frame id : Int) : Prop :=
  ∃ t, s.thing? id = some t ∧ ∃ role ∈ Role.ofThing, frame ∈ s.reel.chain (t.start role)

/-- An animation of a weapon contains a frame. -/
def WeaponShows (s : Session) (frame id : Int) : Prop :=
  ∃ w, s.weapon? id = some w ∧ ∃ role ∈ Role.ofWeapon, frame ∈ s.reel.chain (w.start role)

/-- An animation of a thing contains a frame with a sprite. -/
def ThingWears (s : Session) (sprite id : Int) : Prop :=
  ∃ frame f, s.ThingShows frame id ∧ s.frame? frame = some f ∧ f.sprite = sprite

/-- An animation of a weapon contains a frame with a sprite. -/
def WeaponWears (s : Session) (sprite id : Int) : Prop :=
  ∃ frame f, s.WeaponShows frame id ∧ s.frame? frame = some f ∧ f.sprite = sprite

/-- The record of a thing alone makes it a monster. -/
def IsMonster (s : Session) (id : Int) : Prop := ∃ t, s.thing? id = some t ∧ Monster.judge t none = true

theorem mem_thingsWith {uses : List Int → Bool} :
    id ∈ s.thingsWith uses ↔ 0 ≤ id ∧ ∃ t, s.thing? id = some t ∧ uses (s.thingChains t) = true := by
  unfold thingsWith
  rw [List.mem_filter, mem_thingIds, Option.any_eq_true]
  constructor
  · rintro ⟨⟨hnonneg, -⟩, huses⟩
    exact ⟨hnonneg, huses⟩
  · rintro ⟨hnonneg, t, hthing, huses⟩
    exact ⟨⟨hnonneg, by rw [hthing]; rfl⟩, t, hthing, huses⟩

theorem mem_weaponsWith {uses : List Int → Bool} :
    id ∈ s.weaponsWith uses ↔ id ∈ weaponIds ∧ ∃ w, s.weapon? id = some w ∧ uses (s.weaponChains w) = true := by
  unfold weaponsWith
  rw [List.mem_filter, Option.any_eq_true]

theorem mem_thingsWith_frame {frame : Int} :
    (id ∈ s.thingsWith fun ids => ids.contains frame) ↔ 0 ≤ id ∧ s.ThingShows frame id := by
  simp only [mem_thingsWith, List.contains_iff_mem, thingChains, List.mem_flatMap, ThingShows]

theorem mem_weaponsWith_frame {frame : Int} :
    (id ∈ s.weaponsWith fun ids => ids.contains frame) ↔ id ∈ weaponIds ∧ s.WeaponShows frame id := by
  simp only [mem_weaponsWith, List.contains_iff_mem, weaponChains, List.mem_flatMap, WeaponShows]

theorem mem_thingsWith_sprite {sprite : Int} :
    (id ∈ s.thingsWith fun ids => ids.any fun i => (s.frame? i).any fun f => f.sprite == sprite) ↔
      0 ≤ id ∧ s.ThingWears sprite id := by
  simp only [mem_thingsWith, List.any_eq_true, Option.any_eq_true, beq_iff_eq, thingChains, List.mem_flatMap,
    ThingWears, ThingShows]
  grind

theorem mem_weaponsWith_sprite {sprite : Int} :
    (id ∈ s.weaponsWith fun ids => ids.any fun i => (s.frame? i).any fun f => f.sprite == sprite) ↔
      id ∈ weaponIds ∧ s.WeaponWears sprite id := by
  simp only [mem_weaponsWith, List.any_eq_true, Option.any_eq_true, beq_iff_eq, weaponChains, List.mem_flatMap,
    WeaponWears, WeaponShows]
  grind

theorem mem_monsters : id ∈ s.monsters ↔ 0 ≤ id ∧ s.IsMonster id := by
  unfold monsters IsMonster
  rw [List.mem_filter, mem_thingIds, Option.any_eq_true]
  constructor
  · rintro ⟨⟨hnonneg, -⟩, hjudge⟩
    exact ⟨hnonneg, hjudge⟩
  · rintro ⟨hnonneg, t, hthing, hjudge⟩
    exact ⟨⟨hnonneg, by rw [hthing]; rfl⟩, t, hthing, hjudge⟩

/-! ### Touching is not read -/

theorem thing?_putThing (s : Session) (id i : Int) (t : Thing) :
    (s.putThing id t).thing? i = if i = id then some t else s.thing? i := by
  unfold thing? putThing
  rw [SortedMap.get?_insert]
  split <;> rfl

theorem weapon?_putWeapon (s : Session) (id i : Int) (w : Weapon) :
    (s.putWeapon id w).weapon? i = if i = id then some w else s.weapon? i := by
  unfold weapon? putWeapon
  rw [SortedMap.get?_insert]
  split <;> rfl

/-- Touching things that exist is not read. -/
theorem thing?_touchThings {ids : List Int} (hexist : ∀ id ∈ ids, (s.thing? id).isSome) (i : Int) :
    (s.touchThings ids).thing? i = s.thing? i := by
  unfold touchThings
  induction ids generalizing s with
  | nil => rfl
  | cons id ids ih =>
      obtain ⟨t, hthing⟩ := Option.isSome_iff_exists.1 (hexist id List.mem_cons_self)
      have htouch : s.touchThing id = s.putThing id t := by
        unfold touchThing
        rw [openThing_of_thing? hthing]
      have hone : ∀ j, (s.touchThing id).thing? j = s.thing? j := by
        intro j
        rw [htouch, thing?_putThing]
        split
        · next heq => rw [heq, hthing]
        · rfl
      rw [List.foldl_cons, ih fun j hj => by rw [hone]; exact hexist j (List.mem_cons_of_mem id hj)]
      exact hone i

/-- Touching weapons is not read. -/
theorem weapon?_touchWeapons (s : Session) (ids : List Int) (i : Int) :
    (s.touchWeapons ids).weapon? i = s.weapon? i := by
  unfold touchWeapons
  induction ids generalizing s with
  | nil => rfl
  | cons id ids ih =>
      rw [List.foldl_cons, ih]
      cases hweapon : s.weapon? id with
      | none =>
          have htouch : s.touchWeapon id = s := by
            unfold touchWeapon openWeapon
            rw [hweapon]
          rw [htouch]
      | some w =>
          have htouch : s.touchWeapon id = s.putWeapon id w := by
            unfold touchWeapon
            rw [openWeapon_of_weapon? hweapon]
          rw [htouch, weapon?_putWeapon]
          split
          · next heq => rw [heq, hweapon]
          · rfl

theorem thing?_touchUsers (s : Session) (uses : List Int → Bool) (i : Int) :
    (s.touchUsers uses).thing? i = s.thing? i := by
  have hexist : ∀ id ∈ s.thingsWith uses, (s.thing? id).isSome := by
    intro id hid
    obtain ⟨-, t, hthing, -⟩ := mem_thingsWith.1 hid
    rw [hthing]
    rfl
  unfold touchUsers
  rw [← thing?_touchThings hexist]
  unfold thing?
  rw [things_touchWeapons]

theorem weapon?_touchUsers (s : Session) (uses : List Int → Bool) (i : Int) :
    (s.touchUsers uses).weapon? i = s.weapon? i := by
  unfold touchUsers
  rw [weapon?_touchWeapons]
  unfold weapon?
  rw [weapons_touchThings]

/-- Chains are read off the overlay of frames alone. -/
theorem chain_congr (hframes : s'.frames = s.frames) (start : Int) : s'.reel.chain start = s.reel.chain start := by
  refine Reel.chain_eq_of_frame?_eq fun id _ _ => ?_
  change s'.frame? id = s.frame? id
  unfold frame?
  rw [hframes]

section Touched

variable (uses : List Int → Bool) {frame sprite : Int}

theorem thingShows_touchUsers : (s.touchUsers uses).ThingShows frame id ↔ s.ThingShows frame id := by
  unfold ThingShows
  rw [thing?_touchUsers]
  simp only [chain_congr (Marks.touchUsers s uses).frames_eq]

theorem weaponShows_touchUsers : (s.touchUsers uses).WeaponShows frame id ↔ s.WeaponShows frame id := by
  unfold WeaponShows
  rw [weapon?_touchUsers]
  simp only [chain_congr (Marks.touchUsers s uses).frames_eq]

theorem frame?_touchUsers : (s.touchUsers uses).frame? frame = s.frame? frame := by
  unfold frame?
  rw [(Marks.touchUsers s uses).frames_eq]

theorem thingWears_touchUsers : (s.touchUsers uses).ThingWears sprite id ↔ s.ThingWears sprite id := by
  unfold ThingWears
  simp only [thingShows_touchUsers, frame?_touchUsers]

theorem weaponWears_touchUsers : (s.touchUsers uses).WeaponWears sprite id ↔ s.WeaponWears sprite id := by
  unfold WeaponWears
  simp only [weaponShows_touchUsers, frame?_touchUsers]

end Touched

/-! ### A new record of a frame -/

/-- A new record of a frame is met by the chains that met the old one, even if it names another frame next. -/
theorem mem_chain_putFrame {frame start : Int} (hframe : (s.frame? frame).isSome) (f : Frame) :
    frame ∈ (s.putFrame frame f).reel.chain start ↔ frame ∈ s.reel.chain start := by
  refine Reel.mem_chain_iff_of_eq_off hframe ?_ ?_
  · change ((s.putFrame frame f).frame? frame).isSome
    rw [frame?_putFrame, if_pos rfl]
    rfl
  · intro i hne
    exact (frame?_putFrame s frame i f).trans (if_neg hne)

theorem thingShows_putFrame {frame : Int} (hframe : (s.frame? frame).isSome) (f : Frame) :
    (s.putFrame frame f).ThingShows frame id ↔ s.ThingShows frame id := by
  unfold ThingShows
  simp only [mem_chain_putFrame hframe]
  rfl

theorem weaponShows_putFrame {frame : Int} (hframe : (s.frame? frame).isSome) (f : Frame) :
    (s.putFrame frame f).WeaponShows frame id ↔ s.WeaponShows frame id := by
  unfold WeaponShows
  simp only [mem_chain_putFrame hframe]
  rfl

end Session
end DoomPatch
