import DoomPatch.Proofs.Session.Move
import DoomPatch.Proofs.Session.Overlay

/-!
# Marks of ammunition and global values

A changed type of ammunition or global value has its users marked: as long as one of them is not modified, the
value is the one of the unpatched game.

* `Marked` — whatever differs from the unpatched game has its users modified.
* `Marked.move` — every move keeps this.
* `Reachable.marked` — it holds of every session that can be reached.
-/

namespace DoomPatch

/-- Storing a global value changes no other. -/
theorem MiscField.get_store_of_ne {f g : MiscField} (hne : g ≠ f) (v : Int) (m : Misc) :
    g.get (MiscField.table.store f v m) = g.get m := by
  cases f <;> cases g <;> first | rfl | exact absurd rfl hne

theorem MiscField.get_store (f : MiscField) (v : Int) (m : Misc) : f.get (MiscField.table.store f v m) = v := by
  cases f <;> rfl

namespace Session

/-- Whatever differs from the unpatched game has its users modified. -/
structure Marked (s : Session) : Prop where
  /-- The users of ammunition. -/
  ammo : ∀ a, s.ammo? a ≠ Baseline.ammo? a → ∀ id ∈ ammoUsers a, (s.things.get? id).isSome
  /-- The things that a global value configures. -/
  misc : ∀ f, f.get s.misc ≠ f.get Baseline.misc → ∀ id ∈ miscThings f, (s.things.get? id).isSome
  /-- The monsters of the tables, once monsters of a kind fight each other. -/
  infight : s.misc.infighting = true → ∀ id t, Baseline.thing? id = some t → Monster.judge t none = true →
    (s.things.get? id).isSome

theorem marked_new (version : Int) : (new version).Marked where
  ammo := fun _ hne => absurd rfl hne
  misc := fun _ hne => absurd rfl hne
  infight := fun hon => by cases hon

/-- Marks alone, and records that play no part here, change nothing. -/
theorem Marked.grow {s s' : Session} (hmarked : s.Marked) (hammo : s'.ammo = s.ammo) (hmisc : s'.misc = s.misc)
    (hthings : Grows s.things s'.things) : s'.Marked where
  ammo := by
    intro a hne id hid
    rw [ammo?_congr hammo] at hne
    exact hthings id (hmarked.ammo a hne id hid)
  misc := by
    intro f hne id hid
    rw [hmisc] at hne
    exact hthings id (hmarked.misc f hne id hid)
  infight := by
    intro hon id t hbase hmonster
    rw [hmisc] at hon
    exact hthings id (hmarked.infight hon id t hbase hmonster)

/-- A thing of the tables exists in every session. -/
theorem isSome_thing?_of_baseline {s : Session} {id : Int} (hbase : (Baseline.thing? id).isSome) :
    (s.thing? id).isSome := by
  unfold thing?
  rw [Option.isSome_or, hbase, Bool.or_true]

theorem isSome_baseline_of_mem_ammoUsers {a id : Int} (hid : id ∈ ammoUsers a) : (Baseline.thing? id).isSome := by
  apply Baseline.isSome_thing?
  unfold ammoUsers ammoPickups at hid
  simp only [List.mem_cons] at hid
  rcases hid with rfl | rfl | hid
  · decide
  · decide
  · unfold Baseline.numThings
    split at hid <;> simp at hid <;> omega

theorem isSome_baseline_of_mem_miscThings {f : MiscField} {id : Int} (hid : id ∈ miscThings f) :
    (Baseline.thing? id).isSome := by
  apply Baseline.isSome_thing?
  unfold Baseline.numThings
  cases f <;> simp [miscThings, player] at hid <;> omega

/-- A changed type of ammunition has its users marked. -/
theorem Marked.putAmmo {s : Session} (hmarked : s.Marked) (id : Int) (a : Ammo) :
    ((s.putAmmo id a).touchThings (ammoUsers id)).Marked := by
  have hmarks := Marks.touchThings (s.putAmmo id a) (ammoUsers id)
  have hmisc : ((s.putAmmo id a).touchThings (ammoUsers id)).misc = s.misc := hmarks.misc_eq
  constructor
  · intro b hne i hi
    by_cases heq : b = id
    · subst heq
      exact isSome_get?_touchThings hi (isSome_thing?_of_baseline (isSome_baseline_of_mem_ammoUsers hi))
    · rw [ammo?_congr hmarks.ammo_eq, ammo?_putAmmo, if_neg heq] at hne
      exact hmarks.things i (hmarked.ammo b hne i hi)
  · intro f hne i hi
    rw [hmisc] at hne
    exact hmarks.things i (hmarked.misc f hne i hi)
  · intro hon i t hbase hmonster
    rw [hmisc] at hon
    exact hmarks.things i (hmarked.infight hon i t hbase hmonster)

/-- A changed global value has the things marked that it configures. -/
theorem isSome_get?_touchMiscUsers (s : Session) (f : MiscField) (v : Int) {id : Int} (hid : id ∈ miscThings f) :
    ((s.touchMiscUsers f v).things.get? id).isSome := by
  have hexists : (s.thing? id).isSome := isSome_thing?_of_baseline (isSome_baseline_of_mem_miscThings hid)
  have htouched := isSome_get?_touchThings hid hexists
  unfold touchMiscUsers
  dsimp only
  split
  · split
    · exact Grows.insert _ _ _ id htouched
    · exact htouched
  · split <;> exact htouched
  · split
    · exact (Marks.touchThings _ _).things id htouched
    · exact htouched
  · exact htouched

/-- Once monsters of a kind fight each other, the monsters of the tables are modified. -/
theorem isSome_get?_touchMiscUsers_infight (s : Session) {id : Int} {t : Thing}
    (hbase : Baseline.thing? id = some t) (hmonster : Monster.judge t none = true) :
    ((s.touchMiscUsers .infight Misc.infightOn).things.get? id).isSome := by
  have htouch : s.touchMiscUsers .infight Misc.infightOn = s.touchThings s.monsters := rfl
  rw [htouch]
  -- Monsters are listed by their present records, so one that is modified may not be among them.
  cases hget : s.things.get? id with
  | some t' => exact (Marks.touchThings s s.monsters).things id (by rw [hget]; rfl)
  | none =>
      have hthing : s.thing? id = some t := (thing?_of_get?_eq_none hget).trans hbase
      have hmem : id ∈ s.monsters := by
        unfold monsters
        rw [List.mem_filter]
        exact ⟨mem_thingIds_of_baseline hbase, by simp [hthing, hmonster]⟩
      exact isSome_get?_touchThings hmem (by rw [hthing]; rfl)

theorem Marked.storeMisc {s : Session} (hmarked : s.Marked) (f : MiscField) (v : Int) :
    (({ s with misc := MiscField.table.store f v s.misc, miscModified := true } : Session).touchMiscUsers f v).Marked := by
  have hmarks := Marks.touchMiscUsers
    { s with misc := MiscField.table.store f v s.misc, miscModified := true } f v
  have hmisc : (({ s with misc := MiscField.table.store f v s.misc, miscModified := true } :
      Session).touchMiscUsers f v).misc = MiscField.table.store f v s.misc := hmarks.misc_eq
  constructor
  · intro a hne i hi
    rw [ammo?_congr hmarks.ammo_eq] at hne
    exact hmarks.things i (hmarked.ammo a hne i hi)
  · intro g hne i hi
    by_cases heq : g = f
    · subst heq
      exact isSome_get?_touchMiscUsers _ g v hi
    · rw [hmisc, MiscField.get_store_of_ne heq] at hne
      exact hmarks.things i (hmarked.misc g hne i hi)
  · intro hon i t hbase hmonster
    rw [hmisc] at hon
    by_cases heq : MiscField.infight = f
    · subst heq
      -- Only one value of the field turns infighting on, and storing it touches all monsters.
      have hv : v = Misc.infightOn := by
        have hstored := MiscField.get_store .infight v s.misc
        rw [← hstored]
        exact beq_iff_eq.1 hon
      subst hv
      exact isSome_get?_touchMiscUsers_infight _ hbase hmonster
    · have hkeep : (MiscField.table.store f v s.misc).infight = s.misc.infight :=
        MiscField.get_store_of_ne heq v s.misc
      unfold Misc.infighting at hon
      rw [hkeep] at hon
      exact hmarks.things i (hmarked.infight hon i t hbase hmonster)

/-- Every move marks the users of what it changes. -/
theorem Marked.move {s s' : Session} (hmarked : s.Marked) (hmove : Move s s') : s'.Marked := by
  cases hmove with
  | warn w => exact hmarked.grow rfl rfl (Grows.refl _)
  | thing id t t' => exact hmarked.grow rfl rfl (Grows.insert _ _ _)
  | frame id f f' =>
      have hmarks := Marks.touchFrameUsers (s.putFrame id f') id
      exact hmarked.grow hmarks.ammo_eq hmarks.misc_eq hmarks.things
  | weapon id w w' => exact hmarked.grow rfl rfl (Grows.refl _)
  | ammo id a a' => exact hmarked.putAmmo id a'
  | misc f v => exact hmarked.storeMisc f v
  | sound id snd snd' => exact hmarked.grow rfl rfl (Grows.refl _)
  | sprite id name =>
      have hmarks := Marks.touchSpriteUsers { s with sprites := s.sprites.insert id name } id
      exact hmarked.grow hmarks.ammo_eq hmarks.misc_eq hmarks.things
  | text ref value => exact hmarked.grow rfl rfl (Grows.refl _)

/-- In every session that can be reached, whatever differs from the unpatched game has its users modified. -/
theorem Reachable.marked {s : Session} (hs : Reachable s) : s.Marked :=
  hs.invariant marked_new (fun _ _ hmarked hmove => hmarked.move hmove)
    (fun _ _ hmarked => hmarked.grow rfl rfl (Grows.refl _))

end Session
end DoomPatch
