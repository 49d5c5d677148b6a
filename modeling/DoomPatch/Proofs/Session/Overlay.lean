import DoomPatch.Proofs.Baseline.Tables
import DoomPatch.Session.Dependents

/-!
# Overlays

An entity is modified when the overlay of its kind has a record for it.  Touching adds records that read as
before, and never takes one away.

* `openThing_of_thing?`, `openWeapon_of_weapon?` — an entity that exists can be changed, from the record it has.
* `Grows` — every record of one overlay is a record of another.
* `Marks` — more things and weapons are modified, and nothing else changed; all kinds of touching do this.
* `isSome_get?_touchThings`, `isSome_get?_touchWeapons` — what is touched is modified.
* `uses_eq_false_of_thing`, `uses_eq_false_of_weapon` — who is not modified after the users of something were
  touched does not use it.
-/

namespace DoomPatch

/-- Every record of one overlay has its number modified in the other. -/
def Grows {α : Type} (m m' : SortedMap Int α) : Prop := ∀ id, (m.get? id).isSome → (m'.get? id).isSome

namespace Grows

variable {α : Type}

theorem refl (m : SortedMap Int α) : Grows m m := fun _ h => h

theorem trans {m m' m'' : SortedMap Int α} (h : Grows m m') (h' : Grows m' m'') : Grows m m'' :=
  fun id hid => h' id (h id hid)

theorem insert (m : SortedMap Int α) (id : Int) (a : α) : Grows m (m.insert id a) := by
  intro i hi
  rw [SortedMap.get?_insert]
  split
  · rfl
  · exact hi

/-- What is unmodified later was unmodified before. -/
theorem get?_eq_none {m m' : SortedMap Int α} (h : Grows m m') {id : Int} (hid : m'.get? id = none) :
    m.get? id = none := by
  cases hm : m.get? id with
  | none => rfl
  | some a =>
      have hsome := h id (by rw [hm]; rfl)
      rw [hid] at hsome
      cases hsome

end Grows

namespace Session

/-! ### Reading -/

theorem thing?_of_get? {s : Session} {id : Int} {t : Thing} (hget : s.things.get? id = some t) :
    s.thing? id = some t := by
  unfold thing?
  rw [hget]
  rfl

theorem weapon?_of_get? {s : Session} {id : Int} {w : Weapon} (hget : s.weapons.get? id = some w) :
    s.weapon? id = some w := by
  unfold weapon?
  rw [hget]
  rfl

theorem thing?_of_get?_eq_none {s : Session} {id : Int} (hid : s.things.get? id = none) :
    s.thing? id = Baseline.thing? id := by
  unfold thing?
  rw [hid]
  rfl

theorem weapon?_of_get?_eq_none {s : Session} {id : Int} (hid : s.weapons.get? id = none) :
    s.weapon? id = Baseline.weapon? id := by
  unfold weapon?
  rw [hid]
  rfl

theorem frame?_of_get?_eq_none {s : Session} {id : Int} (hid : s.frames.get? id = none) :
    s.frame? id = Baseline.frame? id := by
  unfold frame?
  rw [hid]
  rfl

theorem frame?_putFrame (s : Session) (id i : Int) (f : Frame) :
    (s.putFrame id f).frame? i = if i = id then some f else s.frame? i := by
  unfold frame? putFrame
  rw [SortedMap.get?_insert]
  split <;> rfl

/-- Ammunition is read off its overlay alone. -/
theorem ammo?_congr {s s' : Session} (hammo : s'.ammo = s.ammo) (id : Int) : s'.ammo? id = s.ammo? id := by
  unfold ammo?
  rw [hammo]

theorem ammo?_putAmmo (s : Session) (id i : Int) (a : Ammo) :
    (s.putAmmo id a).ammo? i = if i = id then some a else s.ammo? i := by
  unfold ammo? putAmmo
  rw [SortedMap.get?_insert]
  split <;> rfl

/-- Ammunition is changed from the record it has. -/
theorem ammo?_of_openAmmo {s : Session} {id : Int} {a : Ammo} (hopen : s.openAmmo id = .ok a) :
    s.ammo? id = some a := by
  unfold openAmmo at hopen
  cases ha : s.ammo? id with
  | none =>
      rw [ha] at hopen
      cases hopen
  | some a =>
      rw [ha] at hopen
      cases hopen
      rfl

/-- What may be used is a number up to the largest of all. -/
theorem bounds_of_checkId {s : Session} {entity : String} {id size : Int} {u : Unit} (hsize : size ≤ Limits.extendedMax)
    (hcheck : s.checkId entity id size = .ok u) : 0 ≤ id ∧ id ≤ Limits.extendedMax := by
  unfold checkId at hcheck
  split at hcheck
  · cases hcheck
  · split at hcheck
    · omega
    · split at hcheck
      · cases hcheck
      · split at hcheck
        · cases hcheck
        · omega

/-- A thing that exists can be changed, from the record it has. -/
theorem openThing_of_thing? {s : Session} {id : Int} {t : Thing} (hthing : s.thing? id = some t) :
    s.openThing id = .ok t := by
  unfold openThing
  cases hoverlay : s.things.get? id with
  | some t' =>
      rw [thing?_of_get? hoverlay] at hthing
      cases hthing
      rfl
  | none =>
      rw [thing?_of_get?_eq_none hoverlay] at hthing
      have hbounds := Baseline.bounds_of_at? hthing
      rw [Baseline.size_things] at hbounds
      have hcheck : s.checkId "thing" id Baseline.numThings = .ok () := by
        unfold checkId
        rw [if_neg (by omega), if_pos hbounds.2]
      simp only [hcheck, hthing]
      rfl

/-- A weapon that exists can be changed, from the record it has. -/
theorem openWeapon_of_weapon? {s : Session} {id : Int} {w : Weapon} (hweapon : s.weapon? id = some w) :
    s.openWeapon id = .ok w := by
  unfold openWeapon
  rw [hweapon]

/-! ### Marks -/

/-- One session is another with more things and weapons modified, and is the same otherwise. -/
structure Marks (s s' : Session) : Prop where
  /-- Nothing but overlays of things and weapons differs. -/
  eq : s' = { s with things := s'.things, weapons := s'.weapons }
  /-- Modified things stay modified. -/
  things : Grows s.things s'.things
  /-- Modified weapons stay modified. -/
  weapons : Grows s.weapons s'.weapons

namespace Marks

theorem refl (s : Session) : Marks s s := ⟨rfl, Grows.refl _, Grows.refl _⟩

theorem trans {s s' s'' : Session} (h : Marks s s') (h' : Marks s' s'') : Marks s s'' := by
  refine ⟨?_, h.things.trans h'.things, h.weapons.trans h'.weapons⟩
  have heq := h'.eq
  rw [h.eq] at heq
  exact heq

section Fields

variable {s s' : Session} (hmarks : Marks s s')

include hmarks

theorem frames_eq : s'.frames = s.frames := by rw [hmarks.eq]

theorem sprites_eq : s'.sprites = s.sprites := by rw [hmarks.eq]

theorem ammo_eq : s'.ammo = s.ammo := by rw [hmarks.eq]

theorem misc_eq : s'.misc = s.misc := by rw [hmarks.eq]

theorem sounds_eq : s'.sounds = s.sounds := by rw [hmarks.eq]

theorem texts_eq : s'.texts = s.texts := by rw [hmarks.eq]

end Fields

theorem putThing (s : Session) (id : Int) (t : Thing) : Marks s (s.putThing id t) :=
  ⟨rfl, Grows.insert _ _ _, Grows.refl _⟩

theorem putWeapon (s : Session) (id : Int) (w : Weapon) : Marks s (s.putWeapon id w) :=
  ⟨rfl, Grows.refl _, Grows.insert _ _ _⟩

/-- Marking one after the other. -/
theorem foldl {touch : Session → Int → Session} (htouch : ∀ s id, Marks s (touch s id)) (s : Session)
    (ids : List Int) : Marks s (ids.foldl touch s) := by
  induction ids generalizing s with
  | nil => exact refl s
  | cons id ids ih => exact (htouch s id).trans (ih (touch s id))

theorem touchThing (s : Session) (id : Int) : Marks s (s.touchThing id) := by
  unfold Session.touchThing
  split
  · exact putThing _ _ _
  · exact refl s

theorem touchThings (s : Session) (ids : List Int) : Marks s (s.touchThings ids) := foldl touchThing s ids

theorem touchWeapon (s : Session) (id : Int) : Marks s (s.touchWeapon id) := by
  unfold Session.touchWeapon
  split
  · exact putWeapon _ _ _
  · exact refl s

theorem touchWeapons (s : Session) (ids : List Int) : Marks s (s.touchWeapons ids) := foldl touchWeapon s ids

theorem touchUsers (s : Session) (uses : List Int → Bool) : Marks s (s.touchUsers uses) :=
  (touchThings s _).trans (touchWeapons _ _)

theorem touchFrameUsers (s : Session) (frame : Int) : Marks s (s.touchFrameUsers frame) := touchUsers s _

theorem touchSpriteUsers (s : Session) (sprite : Int) : Marks s (s.touchSpriteUsers sprite) := touchUsers s _

theorem touchMiscUsers (s : Session) (f : MiscField) (v : Int) : Marks s (s.touchMiscUsers f v) := by
  have htouch := touchThings s (miscThings f)
  unfold Session.touchMiscUsers
  dsimp only
  split
  · split
    · exact htouch.trans (putThing _ _ _)
    · exact htouch
  · split
    · exact htouch.trans (putWeapon _ _ _)
    · exact htouch
  · split
    · exact htouch.trans (touchThings _ _)
    · exact htouch
  · exact htouch

end Marks

theorem weapons_touchThings (s : Session) (ids : List Int) : (s.touchThings ids).weapons = s.weapons := by
  unfold touchThings
  induction ids generalizing s with
  | nil => rfl
  | cons id ids ih =>
      rw [List.foldl_cons, ih (s.touchThing id)]
      unfold touchThing
      split <;> rfl

theorem things_touchWeapons (s : Session) (ids : List Int) : (s.touchWeapons ids).things = s.things := by
  unfold touchWeapons
  induction ids generalizing s with
  | nil => rfl
  | cons id ids ih =>
      rw [List.foldl_cons, ih (s.touchWeapon id)]
      unfold touchWeapon
      split <;> rfl

/-- What is touched is modified in the end, if it exists and touching others lets it exist. -/
theorem isSome_get?_foldl {α : Type} {overlay : Session → SortedMap Int α} {touch : Session → Int → Session}
    (exist : Session → Int → Prop) (hgrows : ∀ (s : Session) (ids : List Int), Grows (overlay s) (overlay (ids.foldl touch s)))
    (hmarks : ∀ s id, exist s id → ((overlay (touch s id)).get? id).isSome)
    (hkeeps : ∀ s i id, exist s i → exist (touch s id) i) {s : Session} {ids : List Int} {id : Int}
    (hmem : id ∈ ids) (hexists : exist s id) : ((overlay (ids.foldl touch s)).get? id).isSome := by
  induction ids generalizing s with
  | nil => simp at hmem
  | cons i ids ih =>
      rw [List.foldl_cons]
      rcases List.mem_cons.1 hmem with rfl | hmem
      · exact hgrows (touch s id) ids id (hmarks s id hexists)
      · exact ih hmem (hkeeps s id i hexists)

/-- The things that are touched are modified afterwards, if they exist. -/
theorem isSome_get?_touchThings {s : Session} {ids : List Int} {id : Int} (hmem : id ∈ ids)
    (hexists : (s.thing? id).isSome) : ((s.touchThings ids).things.get? id).isSome := by
  -- The things before it in the list are touched first, and it has to outlive that.
  refine isSome_get?_foldl (fun s id => (s.thing? id).isSome) (fun s ids => (Marks.touchThings s ids).things) ?_ ?_ hmem hexists
  · intro s id hexists
    obtain ⟨t, ht⟩ := Option.isSome_iff_exists.1 hexists
    simp [touchThing, openThing_of_thing? ht, putThing]
  · intro s i id hexists
    unfold thing? at hexists ⊢
    rw [Option.isSome_or, Bool.or_eq_true] at hexists ⊢
    exact hexists.imp_left ((Marks.touchThing s id).things i)

/-- The weapons that are touched are modified afterwards, if they exist. -/
theorem isSome_get?_touchWeapons {s : Session} {ids : List Int} {id : Int} (hmem : id ∈ ids)
    (hexists : (s.weapon? id).isSome) : ((s.touchWeapons ids).weapons.get? id).isSome := by
  refine isSome_get?_foldl (fun s id => (s.weapon? id).isSome) (fun s ids => (Marks.touchWeapons s ids).weapons) ?_ ?_ hmem hexists
  · intro s id hexists
    obtain ⟨w, hw⟩ := Option.isSome_iff_exists.1 hexists
    simp [touchWeapon, openWeapon_of_weapon? hw, putWeapon]
  · intro s i id hexists
    unfold weapon? at hexists ⊢
    rw [Option.isSome_or, Bool.or_eq_true] at hexists ⊢
    exact hexists.imp_left ((Marks.touchWeapon s id).weapons i)

/-! ### Touching users -/

theorem le_numThings (s : Session) : (Baseline.numThings : Int) ≤ s.numThings := by
  have hfold : ∀ (keys : List Int) (n : Int), n ≤ keys.foldl (fun n id => if n ≤ id then id + 1 else n) n := by
    intro keys
    induction keys with
    | nil => exact fun n => Int.le_refl n
    | cons id keys ih =>
        intro n
        rw [List.foldl_cons]
        refine Int.le_trans ?_ (ih _)
        split <;> omega
  exact hfold _ _

/-- The things of the tables are listed. -/
theorem mem_thingIds_of_baseline {s : Session} {id : Int} {t : Thing} (hbase : Baseline.thing? id = some t) :
    id ∈ s.thingIds := by
  have hbounds := Baseline.bounds_of_at? hbase
  rw [Baseline.size_things] at hbounds
  have hle := s.le_numThings
  unfold thingIds
  rw [List.mem_filter]
  refine ⟨List.mem_map.2 ⟨id.toNat, List.mem_range.2 (by omega), Int.toNat_of_nonneg hbounds.1⟩, ?_⟩
  unfold thing?
  rw [hbase]
  simp

theorem mem_weaponIds_of_baseline {id : Int} {w : Weapon} (hbase : Baseline.weapon? id = some w) :
    id ∈ weaponIds := by
  have hbounds := Baseline.bounds_of_at? hbase
  rw [Baseline.size_weapons] at hbounds
  exact List.mem_map.2 ⟨id.toNat, List.mem_range.2 (by omega), Int.toNat_of_nonneg hbounds.1⟩

/-- A thing that stays unmodified while the users of something are touched does not use it. -/
theorem uses_eq_false_of_thing {s : Session} {uses : List Int → Bool} {id : Int} {t : Thing}
    (hid : (s.touchUsers uses).things.get? id = none) (hbase : Baseline.thing? id = some t) :
    uses (s.thingChains t) = false := by
  have hnone := (Marks.touchUsers s uses).things.get?_eq_none hid
  have hthing : s.thing? id = some t := (thing?_of_get?_eq_none hnone).trans hbase
  unfold touchUsers at hid
  rw [things_touchWeapons] at hid
  cases huses : uses (s.thingChains t) with
  | false => rfl
  | true =>
      have hmem : id ∈ s.thingsWith uses := by
        unfold thingsWith
        rw [List.mem_filter]
        exact ⟨mem_thingIds_of_baseline hbase, by simp [hthing, huses]⟩
      have hsome := isSome_get?_touchThings hmem (by rw [hthing]; rfl)
      rw [hid] at hsome
      cases hsome

/-- A weapon that stays unmodified while the users of something are touched does not use it. -/
theorem uses_eq_false_of_weapon {s : Session} {uses : List Int → Bool} {id : Int} {w : Weapon}
    (hid : (s.touchUsers uses).weapons.get? id = none) (hbase : Baseline.weapon? id = some w) :
    uses (s.weaponChains w) = false := by
  have hnone := (Marks.touchUsers s uses).weapons.get?_eq_none hid
  have hweapon : s.weapon? id = some w := (weapon?_of_get?_eq_none hnone).trans hbase
  cases huses : uses (s.weaponChains w) with
  | false => rfl
  | true =>
      have hmem : id ∈ s.weaponsWith uses := by
        unfold weaponsWith
        rw [List.mem_filter]
        exact ⟨mem_weaponIds_of_baseline hbase, by simp [hweapon, huses]⟩
      -- Things are touched first, which leaves the weapons as they are.
      have hexists : ((s.touchThings (s.thingsWith uses)).weapon? id).isSome := by
        unfold weapon?
        rw [weapons_touchThings]
        exact Option.isSome_iff_exists.2 ⟨w, hweapon⟩
      have hsome := isSome_get?_touchWeapons hmem hexists
      unfold touchUsers at hid
      rw [hid] at hsome
      cases hsome

end Session
end DoomPatch
