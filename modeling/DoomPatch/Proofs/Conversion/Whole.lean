import DoomPatch.Proofs.Conversion.Desk
import DoomPatch.Proofs.Conversion.Pieces
import DoomPatch.Proofs.Conversion.Things

/-!
# Converting everything

In a session that can be reached every modified entity has a definition: projectiles have an entry, the halves of
the cube and the fog of teleports exist, and modified weapons do.  So a conversion of everything runs to its end, and
what it writes to the lumps of things and of weapons is what the entities give one by one.

* `Reachable.attackEntry` — a projectile has an entry as an attack, also after any edits.
* `Reachable.exists_sorted_drafts`, `Reachable.exists_drafts` — all drafts of a session can be made, with what is known
  of their kinds and texts.
* `Reachable.convertAll_succeeds` — a conversion of everything does not fail, and leaves no lump selected.
* `Press.Joins`, `convertAll_joins` — its lumps of things and weapons are those of single conversions, put one behind
  the other.
-/

namespace DoomPatch
namespace Session

variable {s : Session} {id : Int} {t : Thing}

/-! ### Projectiles -/

/-- A projectile has an entry as an attack: no edit renames a thing, and what is made up beyond the tables is no
projectile. -/
theorem thingLaw_attack : ThingLaw fun id t => t.isAttack = true → (AttackEntry.ofThing? id).isSome where
  table := fun _ _ hbase hattack => (Baseline.attackEntry_of_isAttack hbase hattack).1
  neutral := by
    intro id hnone _ hattack
    have hhead : (Baseline.extraThingName id).toList.head? = some 'D' := by
      change ("DEHEXTRA_" ++ toString (Word.wrap64 (id + 1))).toList.head? = some 'D'
      simp
    unfold Thing.isAttack Thing.neutral at hattack
    rw [hhead] at hattack
    cases hattack
  alters := by
    intro lim id t t' halters hlaw hattack
    unfold Thing.isAttack at hattack hlaw
    rw [halters.name_eq] at hattack
    exact hlaw hattack
  health := fun _ _ _ hlaw => hlaw

theorem Reachable.attackEntry (hs : Reachable s) (hthing : s.thing? id = some t) (hattack : t.isAttack = true) :
    (AttackEntry.ofThing? id).isSome := by
  cases hget : s.things.get? id with
  | some t' =>
      rw [thing?_of_get? hget] at hthing
      cases hthing
      exact thingLaw_attack.of_reachable hs id t hget hattack
  | none =>
      rw [thing?_of_get?_eq_none hget] at hthing
      exact thingLaw_attack.table id t hthing hattack

/-! ### Drafts -/

/-- A modified thing is seen with the record of its overlay. -/
theorem exists_record_of_mem_keys (hid : id ∈ s.things.keys) :
    ∃ t, s.thing? id = some t ∧ Conversion.record { session := s } id = t := by
  obtain ⟨t, hget⟩ := Option.isSome_iff_exists.1 ((SortedMap.mem_keys_iff _ _).1 hid)
  have hthing := thing?_of_get? hget
  refine ⟨t, hthing, ?_⟩
  unfold Conversion.record
  rw [View.thing?_plain, hthing]
  rfl

/-- The modified things that are defined as things, ascending. -/
def plainIds (s : Session) : List Int :=
  s.things.keys.filter fun id => !(Conversion.record { session := s } id).isAttack && id != AttackEntry.spawnFire

theorem mem_plainIds :
    id ∈ s.plainIds ↔ s.things.contains id = true ∧ (∀ t, s.thing? id = some t → t.isAttack = false) ∧
      id ≠ AttackEntry.spawnFire := by
  unfold plainIds
  rw [List.mem_filter, SortedMap.mem_keys_iff]
  constructor
  · rintro ⟨hmodified, htest⟩
    obtain ⟨t, hthing, hrecord⟩ := exists_record_of_mem_keys ((SortedMap.mem_keys_iff _ _).2 hmodified)
    simp only [hrecord, Bool.and_eq_true, Bool.not_eq_true', bne_iff_ne] at htest
    obtain ⟨hplain, hfire⟩ := htest
    refine ⟨hmodified, fun t' hthing' => ?_, hfire⟩
    rw [hthing] at hthing'
    cases hthing'
    exact hplain
  · rintro ⟨hmodified, hplain, hfire⟩
    obtain ⟨t, hthing, hrecord⟩ := exists_record_of_mem_keys ((SortedMap.mem_keys_iff _ _).2 hmodified)
    refine ⟨hmodified, ?_⟩
    rw [hrecord, hplain t hthing]
    simpa using hfire

theorem plainIds_pairwise_lt (s : Session) : s.plainIds.Pairwise (· < ·) := by
  refine List.Pairwise.filter _ (s.things.keys_pairwise_lt.imp ?_)
  intro a b hlt
  exact Int.compare_eq_lt.1 hlt

/-- Every thing has frames to show: should it be the exit of a teleport, there is a fog to borrow from. -/
theorem exists_shown (s : Session) (id : Int) (t : Thing) :
    ∃ starts, ThingDefinition.shown? { session := s } id t = some starts := by
  have hfog : (s.thing? ThingDefinition.teleportFog).isSome :=
    isSome_thing?_of_baseline (Baseline.isSome_thing? (by decide))
  unfold ThingDefinition.shown?
  rw [View.thing?_plain]
  obtain ⟨fog, hfog⟩ := Option.isSome_iff_exists.1 hfog
  split
  · exact ⟨_, by rw [hfog]; rfl⟩
  · exact ⟨_, rfl⟩

/-- A thing that is no projectile and not half of the cube has a definition as a thing. -/
theorem exists_plainThing (s : Session) (t : Thing) (hfire : id ≠ AttackEntry.spawnFire) :
    ∃ d, Draft.plainThing { session := s } id t = .ok d ∧ d.kind = .things ∧ d.attack = none := by
  obtain ⟨starts, hshown⟩ := s.exists_shown id t
  obtain ⟨d, hd, hkind, hattack, -, -⟩ := exists_thing hshown
  refine ⟨d, ?_, hkind, hattack⟩
  unfold Draft.plainThing
  rw [if_neg hfire, hd]

/-- Both halves of the cube exist. -/
theorem exists_cube (s : Session) : ∃ d, Draft.cube { session := s } = .ok d ∧ d.kind = .attacks := by
  have hboth : (s.thing? AttackEntry.spawnShot).isSome ∧ (s.thing? AttackEntry.spawnFire).isSome :=
    ⟨isSome_thing?_of_baseline (Baseline.isSome_thing? (by decide)),
      isSome_thing?_of_baseline (Baseline.isSome_thing? (by decide))⟩
  obtain ⟨shot, hshot⟩ := Option.isSome_iff_exists.1 hboth.1
  obtain ⟨fire, hfire⟩ := Option.isSome_iff_exists.1 hboth.2
  unfold Draft.cube
  rw [View.thing?_plain, View.thing?_plain, hshot, hfire]
  exact ⟨_, rfl, rfl⟩

theorem exists_attackThing (t : Thing) (hentry : (AttackEntry.ofThing? id).isSome) (s : Session) :
    ∃ d, Draft.attackThing { session := s } id t = .ok d ∧ d.kind = .attacks := by
  unfold Draft.attackThing
  by_cases hshot : id = AttackEntry.spawnShot
  · rw [if_pos hshot]
    exact s.exists_cube
  · rw [if_neg hshot]
    obtain ⟨e, he⟩ := Option.isSome_iff_exists.1 hentry
    rw [he]
    exact ⟨_, rfl, rfl⟩

end Session

/-- The text of a definition; none if it could not be made. -/
def Draft.textOf : Except ConversionError Draft → String
  | .ok d => d.block.text
  | .error _ => ""

/-- Drafts that can be made, belong to one lump and are attacks only if it is that of attacks. -/
def Draft.AllOf (k : LumpKind) (ds : List Draft) : Prop := ∀ d ∈ ds, d.kind = k ∧ d.Fits

/-- If every draft of a list can be made, the list is one of drafts. -/
theorem Draft.exists_list {k : LumpKind} {ids : List Int} {make : Int → Except ConversionError Draft}
    (hmake : ∀ id ∈ ids, ∃ d, make id = .ok d ∧ d.kind = k ∧ d.Fits) :
    ∃ ds : List Draft, ids.map make = ds.map .ok ∧ AllOf k ds := by
  unfold AllOf
  induction ids with
  | nil => exact ⟨[], rfl, by simp⟩
  | cons id ids ih =>
      obtain ⟨d, hd, hkind⟩ := hmake id List.mem_cons_self
      obtain ⟨ds, hds, hall⟩ := ih fun i hi => hmake i (List.mem_cons_of_mem id hi)
      exact ⟨d :: ds, by rw [List.map_cons, List.map_cons, hd, hds], by simpa using ⟨hkind, hall⟩⟩

/-- What can be told of each draft from its number can be told of a list of drafts from the numbers. -/
theorem Draft.map_of_map_ok {α : Type} {make : Int → Except ConversionError Draft} {part : Draft → α} {told : Int → α}
    {ids : List Int} {ds : List Draft} (hds : ds.map .ok = ids.map make)
    (htold : ∀ id ∈ ids, ∀ d, make id = .ok d → part d = told id) : ds.map part = ids.map told := by
  induction ids generalizing ds with
  | nil =>
      obtain rfl : ds = [] := List.map_eq_nil_iff.1 hds
      rfl
  | cons id ids ih =>
      cases ds with
      | nil => cases hds
      | cons d ds =>
          rw [List.map_cons, List.map_cons, List.cons.injEq] at hds
          have hrest := ih hds.2 fun i hi => htold i (List.mem_cons_of_mem id hi)
          rw [List.map_cons, List.map_cons, htold id List.mem_cons_self d hds.1.symm, hrest]

theorem Draft.AllOf.filter_self {k : LumpKind} {ds : List Draft} (hall : AllOf k ds) :
    (ds.filter fun d => d.kind == k) = ds :=
  List.filter_eq_self.2 fun d hd => by simp [(hall d hd).1]

theorem Draft.AllOf.filter_of_ne {k k' : LumpKind} {ds : List Draft} (hall : AllOf k ds) (hne : k ≠ k') :
    (ds.filter fun d => d.kind == k') = [] :=
  List.filter_eq_nil_iff.2 fun d hd => by simp [(hall d hd).1, hne]

namespace Session

variable {s : Session} {id : Int}

/-- A thing among the plain ones is defined as a thing, on its own as with the others. -/
theorem exists_of_mem_plainIds (hid : id ∈ s.plainIds) :
    ∃ d, Draft.ofThing { session := s } id = .ok d ∧
      Draft.plainThing { session := s } id (Conversion.record { session := s } id) = .ok d ∧
      d.kind = .things ∧ d.attack = none := by
  obtain ⟨hmodified, hplain, hfire⟩ := mem_plainIds.1 hid
  obtain ⟨t, hthing, hrecord⟩ := exists_record_of_mem_keys ((SortedMap.mem_keys_iff _ _).2 hmodified)
  obtain ⟨d, hd, hkind, hattack⟩ := s.exists_plainThing t hfire
  refine ⟨d, ?_, hrecord ▸ hd, hkind, hattack⟩
  rw [ofThing_of_thing? hthing, hplain t hthing]
  exact hd

theorem exists_of_mem_weapons (hid : id ∈ s.weapons.keys) :
    ∃ d, Draft.ofWeapon { session := s } id = .ok d ∧ d.kind = .weapons ∧ d.attack = none := by
  obtain ⟨w, hget⟩ := Option.isSome_iff_exists.1 ((SortedMap.mem_keys_iff _ _).1 hid)
  unfold Draft.ofWeapon
  dsimp only
  rw [weapon?_of_get? hget]
  exact ⟨_, rfl, rfl, rfl⟩

/-- Things are converted with the others as they are on their own. -/
theorem things_eq_map_ofThing (s : Session) :
    Conversion.things { session := s } = s.plainIds.map (Draft.ofThing { session := s }) := by
  refine List.map_congr_left fun id hid => ?_
  obtain ⟨d, hd, hd', -, -⟩ := exists_of_mem_plainIds hid
  rw [hd, hd']

theorem exists_things (s : Session) :
    ∃ ds : List Draft, Conversion.things { session := s } = ds.map .ok ∧ Draft.AllOf .things ds := by
  rw [things_eq_map_ofThing]
  refine Draft.exists_list fun id hid => ?_
  obtain ⟨d, hd, -, hkind, hattack⟩ := exists_of_mem_plainIds hid
  exact ⟨d, hd, hkind, fun h => by simp [hattack] at h⟩

theorem exists_weapons (s : Session) :
    ∃ ds : List Draft, Conversion.weapons { session := s } = ds.map .ok ∧ Draft.AllOf .weapons ds := by
  refine Draft.exists_list fun id hid => ?_
  obtain ⟨d, hd, hkind, hattack⟩ := exists_of_mem_weapons hid
  exact ⟨d, hd, hkind, fun h => by simp [hattack] at h⟩

theorem Reachable.exists_projectiles (hs : Reachable s) :
    ∃ ds : List Draft, Conversion.projectiles { session := s } = ds.map .ok ∧ Draft.AllOf .attacks ds := by
  unfold Conversion.projectiles
  have hmake : ∀ id ∈ s.things.keys.filter fun id =>
      (Conversion.record { session := s } id).isAttack && id != AttackEntry.spawnShot,
      ∃ d, Draft.attackThing { session := s } id (Conversion.record { session := s } id) = .ok d ∧
        d.kind = .attacks ∧ d.Fits := by
    intro id hid
    obtain ⟨hkey, htest⟩ := List.mem_filter.1 hid
    obtain ⟨t, hthing, hrecord⟩ := exists_record_of_mem_keys hkey
    rw [hrecord] at htest ⊢
    have hattack : t.isAttack = true := (Bool.and_eq_true_iff.1 htest).1
    obtain ⟨d, hd, hkind⟩ := exists_attackThing t (hs.attackEntry hthing hattack) s
    exact ⟨d, hd, hkind, fun _ => hkind⟩
  exact Draft.exists_list hmake

theorem exists_cubes (s : Session) :
    ∃ ds : List Draft, Conversion.cubes { session := s } = ds.map .ok ∧ Draft.AllOf .attacks ds := by
  obtain ⟨d, hd, hkind⟩ := s.exists_cube
  unfold Conversion.cubes Draft.AllOf
  split
  · exact ⟨[d], by rw [hd]; rfl, by simpa using ⟨hkind, fun _ => hkind⟩⟩
  · exact ⟨[], rfl, by simp⟩

/-- All drafts of a session that can be reached can be made; those of the lump of things are the drafts of things, those
of the lump of weapons the drafts of weapons, and the others are attacks. -/
theorem Reachable.exists_sorted_drafts (hs : Reachable s) :
    ∃ ds : List Draft, Conversion.drafts { session := s } = ds.map .ok ∧ (∀ d ∈ ds, d.Fits) ∧
      (ds.filter fun d => d.kind == .things).map .ok = Conversion.things { session := s } ∧
      (ds.filter fun d => d.kind == .weapons).map .ok = Conversion.weapons { session := s } ∧
      ∀ k, k ≠ .things → k ≠ .attacks → k ≠ .weapons → (ds.filter fun d => d.kind == k) = [] := by
  obtain ⟨things, hthings, hthingsOf⟩ := s.exists_things
  obtain ⟨projectiles, hprojectiles, hprojectilesOf⟩ := hs.exists_projectiles
  obtain ⟨cubes, hcubes, hcubesOf⟩ := s.exists_cubes
  obtain ⟨weapons, hweapons, hweaponsOf⟩ := s.exists_weapons
  refine ⟨things ++ projectiles ++ cubes ++ weapons, ?_, ?_, ?_, ?_, ?_⟩
  · unfold Conversion.drafts
    rw [hthings, hprojectiles, hcubes, hweapons]
    simp
  · intro d hd
    simp only [List.mem_append] at hd
    rcases hd with ((hd | hd) | hd) | hd
    · exact (hthingsOf d hd).2
    · exact (hprojectilesOf d hd).2
    · exact (hcubesOf d hd).2
    · exact (hweaponsOf d hd).2
  · rw [List.filter_append, List.filter_append, List.filter_append, hthingsOf.filter_self,
      hprojectilesOf.filter_of_ne (by decide), hcubesOf.filter_of_ne (by decide), hweaponsOf.filter_of_ne (by decide)]
    simpa using hthings.symm
  · rw [List.filter_append, List.filter_append, List.filter_append, hthingsOf.filter_of_ne (by decide),
      hprojectilesOf.filter_of_ne (by decide), hcubesOf.filter_of_ne (by decide), hweaponsOf.filter_self]
    simpa using hweapons.symm
  · intro k hthing hattack hweapon
    rw [List.filter_append, List.filter_append, List.filter_append, hthingsOf.filter_of_ne hthing.symm,
      hprojectilesOf.filter_of_ne hattack.symm, hcubesOf.filter_of_ne hattack.symm,
      hweaponsOf.filter_of_ne hweapon.symm]
    rfl

/-- The drafts of things and of weapons give the texts of their entities in order. -/
theorem Reachable.exists_drafts (hs : Reachable s) :
    ∃ ds : List Draft, Conversion.drafts { session := s } = ds.map .ok ∧ (∀ d ∈ ds, d.Fits) ∧
      ((ds.filter fun d => d.kind == .things).map (·.block.text) =
        s.plainIds.map fun id => Draft.textOf (Draft.ofThing { session := s } id)) ∧
      ((ds.filter fun d => d.kind == .weapons).map (·.block.text) =
        s.weapons.keys.map fun id => Draft.textOf (Draft.ofWeapon { session := s } id)) := by
  obtain ⟨ds, hdrafts, hfits, hthings, hweapons, -⟩ := hs.exists_sorted_drafts
  have htext : ∀ {draft : Except ConversionError Draft} (d : Draft), draft = .ok d →
      d.block.text = Draft.textOf draft := by
    rintro draft d rfl
    rfl
  rw [things_eq_map_ofThing] at hthings
  exact ⟨ds, hdrafts, hfits, Draft.map_of_map_ok hthings fun _ _ => htext,
    Draft.map_of_map_ok hweapons fun _ _ => htext⟩

/-! ### Converting everything -/

/-- Every attack that a weapon fires has a slot, and none is left out for want of one. -/
theorem slots_eq_zip (v : View) (w : Weapon) (i : Nat) (name : String)
    (hfired : (WeaponDefinition.attacks v w)[i]? = some name) :
    ∃ slot, AttackSlot.all[i]? = some slot ∧ (WeaponDefinition.slots v w)[i]? = some (slot, name) := by
  have hlength : (WeaponDefinition.attacks v w).length ≤ AttackSlot.all.length := by
    unfold WeaponDefinition.attacks
    rw [List.length_take]
    exact Nat.min_le_left _ _
  have hfired' : i < (WeaponDefinition.attacks v w).length := (List.getElem?_eq_some_iff.1 hfired).1
  have hbound : i < AttackSlot.all.length := Nat.lt_of_lt_of_le hfired' hlength
  have hslot : AttackSlot.all[i]? = some AttackSlot.all[i] := List.getElem?_eq_getElem hbound
  refine ⟨_, hslot, ?_⟩
  unfold WeaponDefinition.slots
  rw [List.getElem?_zip_eq_some]
  exact ⟨hslot, hfired⟩

/-- The cast of the game fits, and its places are within it. -/
theorem cast_places :
    Cast.ofList Cast.standard.order = .ok Cast.standard ∧
      ∀ id n, Cast.standard.place? id = some n → 1 ≤ n ∧ n ≤ Cast.capacity := by
  refine ⟨rfl, fun id n hplace => ?_⟩
  unfold Cast.place? at hplace
  obtain ⟨i, hi, rfl⟩ := Option.map_eq_some_iff.1 hplace
  obtain ⟨hlt, -, -⟩ := List.idxOf?_eq_some_iff.1 hi
  have hlength : Cast.standard.order.length = 17 := rfl
  unfold Cast.capacity
  omega

/-- In a session that can be reached a conversion of everything runs to its end, step by step: nothing is written while
no lump is selected, none is left selected, no scratch attack is left pending, and whatever is looked up in a table of
fixed size is there.  A press comes to the same at once. -/
theorem Reachable.convertAll_succeeds (hs : Reachable s) :
    (∃ d : Desk, (Desk.convertAll { session := s }).run {} = .ok () d ∧ d.buffer.fault? = none ∧
      d.buffer.current = none ∧ d.pending = [] ∧ Press.convertAll {} { session := s } = (d.toPress, none)) ∧
      (∀ id t, s.thing? id = some t → t.isAttack = true → (AttackEntry.ofThing? id).isSome) ∧
      (∀ (w : Weapon) (i : Nat) (name : String), (WeaponDefinition.attacks { session := s } w)[i]? = some name →
        ∃ slot, AttackSlot.all[i]? = some slot ∧ (WeaponDefinition.slots { session := s } w)[i]? = some (slot, name)) ∧
      Cast.ofList Cast.standard.order = .ok Cast.standard ∧
      ∀ id n, Cast.standard.place? id = some n → 1 ≤ n ∧ n ≤ Cast.capacity := by
  obtain ⟨ds, hdrafts, hfits, -, -⟩ := hs.exists_drafts
  obtain ⟨p, pieces, hp, hemits, -⟩ := Press.convertAll_emits {} hdrafts hfits
  have hidle : p.buffer.Idle := by
    rw [hemits]
    exact Buffer.idle_empty.writeAll pieces
  have hrun : (Desk.convertAll { session := s }).run {} = .ok () ⟨p, []⟩ := by
    refine (Desk.run_convertAll { session := s } {}).trans ?_
    rw [hp]
    rfl
  refine ⟨⟨⟨p, []⟩, hrun, hidle.fault?, hidle.current, rfl, hp⟩, ?_, ?_, cast_places⟩
  · exact fun id t hthing hattack => hs.attackEntry hthing hattack
  · exact fun w i name hfired => slots_eq_zip _ w i name hfired

/-- A patch with a thing and a sound beyond the tables, and with both halves of the cube. -/
theorem convertAll_succeeds_extended :
    ∃ (s : Session) (d : Desk), s = patched 2021 [.thingField 200 "Hit points" 10, .thingField 28 "Speed" 20,
        .thingField 29 "Initial frame" 0, .weaponField 1 "Ammo type" 1, .soundField 700 "Value" 1] ∧
      (∀ id ∈ [200, 28, 29], s.things.contains id = true) ∧
      (Desk.convertAll { session := s }).run {} = .ok () d ∧ d.buffer.fault? = none ∧ d.buffer.current = none ∧
      Press.convertAll {} { session := s } = (d.toPress, none) := by
  have hs := reachable_patched 2021 [.thingField 200 "Hit points" 10, .thingField 28 "Speed" 20,
    .thingField 29 "Initial frame" 0, .weaponField 1 "Ammo type" 1, .soundField 700 "Value" 1]
  obtain ⟨⟨d, hrun, hfault, hcurrent, -, hconverted⟩, -⟩ := hs.convertAll_succeeds
  exact ⟨_, d, rfl, by decide, hrun, hfault, hcurrent, hconverted⟩

end Session

/-- A lump holds what conversions of single entities write to it behind the header, one behind the other; if there
are none of these, it is absent. -/
def Press.Joins (p : Press) (k : LumpKind) (convert : Int → Except ConversionError Press) (ids : List Int) : Prop :=
  ∃ text : Int → String,
    (∀ id ∈ ids, ∃ q, convert id = .ok q ∧ q.buffer.find? k = some (k.header ++ text id)) ∧
    p.buffer.find? k = if ids = [] then none else some (k.header ++ String.join (ids.map text))

/-- The blocks of drafts that are no attacks, written in order among whatever else, are what the drafts write to
the lump alone. -/
theorem Press.joins_of_emits {p : Press} {k : LumpKind} {make : Int → Except ConversionError Draft} {ids : List Int}
    {pieces : List (LumpKind × String)} (hk : k ≠ .attacks) (hemits : Emits {} p pieces)
    (htexts : Buffer.textsOf k pieces = ids.map fun id => Draft.textOf (make id))
    (hmake : ∀ id ∈ ids, ∃ d, make id = .ok d ∧ d.kind = k ∧ d.attack = none) :
    p.Joins k (fun id => (make id).map (publish {})) ids := by
  have hempty : Buffer.find? {} k = none := rfl
  refine ⟨fun id => Draft.textOf (make id), ?_, ?_⟩
  · intro id hid
    obtain ⟨d, hd, hkind, hattack⟩ := hmake id hid
    have hfits : d.Fits := fun h => by simp [hattack] at h
    obtain ⟨alone, halone, hown⟩ := publish_emits {} hfits
    have hblock : Buffer.textsOf k alone = [d.block.text] := (hown k hk).trans (if_pos hkind)
    refine ⟨publish {} d, congrArg (Except.map (publish {})) hd, ?_⟩
    change _ = some (k.header ++ Draft.textOf (make id))
    rw [halone, Buffer.find?_writeAll, hblock, hempty, hd]
    simp [Draft.textOf, String.join]
  · rw [hemits, Buffer.find?_writeAll, htexts, hempty]
    simp

/-- Converting everything and converting entities one by one agree: the lump of things is put together from the
modified things that are neither projectiles nor half of the cube, and the lump of weapons from the modified
weapons, both in ascending order. -/
theorem convertAll_joins (version : Int) (edits : List Edit) :
    ∃ (p : Press) (things weapons : List Int),
      Press.convertAll {} { session := Session.patched version edits } = (p, none) ∧
      (things.Pairwise (· < ·) ∧ ∀ id, id ∈ things ↔
        (Session.patched version edits).things.contains id = true ∧
        (∀ t, (Session.patched version edits).thing? id = some t → t.isAttack = false) ∧
        id ≠ AttackEntry.spawnFire) ∧
      (weapons.Pairwise (· < ·) ∧ ∀ id, id ∈ weapons ↔
        (Session.patched version edits).weapons.contains id = true) ∧
      p.Joins .things (Press.convertThing {} { session := Session.patched version edits }) things ∧
      p.Joins .weapons (Press.convertWeapon {} { session := Session.patched version edits }) weapons := by
  have hs := Session.reachable_patched version edits
  generalize Session.patched version edits = s at hs ⊢
  obtain ⟨ds, hdrafts, hfits, hthings, hweapons⟩ := hs.exists_drafts
  obtain ⟨p, pieces, hp, hemits, htexts⟩ := Press.convertAll_emits {} hdrafts hfits
  have hascending : s.weapons.keys.Pairwise (· < ·) :=
    s.weapons.keys_pairwise_lt.imp fun hlt => Int.compare_eq_lt.1 hlt
  refine ⟨p, s.plainIds, s.weapons.keys, hp, ⟨s.plainIds_pairwise_lt, fun id => Session.mem_plainIds⟩,
    ⟨hascending, fun id => SortedMap.mem_keys_iff _ _⟩, ?_, ?_⟩
  · refine Press.joins_of_emits (by decide) hemits ((htexts .things (.inl rfl)).trans hthings) fun id hid => ?_
    obtain ⟨d, hd, -, hkind⟩ := Session.exists_of_mem_plainIds hid
    exact ⟨d, hd, hkind⟩
  · refine Press.joins_of_emits (by decide) hemits ((htexts .weapons (.inr rfl)).trans hweapons) fun id hid => ?_
    exact Session.exists_of_mem_weapons hid

end DoomPatch
