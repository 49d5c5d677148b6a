import DoomPatch.Proofs.Conversion.Lumps
import DoomPatch.Proofs.Conversion.Parts

/-!
# Things that a conversion passes over

A conversion of the whole game writes modified things only.  What it passes over is defined as in the unpatched
game, with two exceptions that marks do not reach: the exit of a teleport shows the frames of the fog, and a
weapon that is picked up comes with ammunition.  This module says exactly when these make a difference.

* `PassesOver` — a thing that is neither modified nor part of a modified cube.
* `mem_drafts_of_not_passesOver` — every other thing is written.
* `Unaffected` — the two exceptions make no difference.
* `convertThing_passesOver_iff` — a thing that is passed over fills the lumps of the unpatched game exactly if it
  is unaffected.
-/

namespace DoomPatch
namespace Session

/-- A conversion of the whole game passes a thing over: it is not modified, and neither is the other half of the
cube if it is part of that. -/
def PassesOver (s : Session) (id : Int) : Prop :=
  s.things.get? id = none ∧
    (id = AttackEntry.spawnShot ∨ id = AttackEntry.spawnFire →
      s.things.get? AttackEntry.spawnShot = none ∧ s.things.get? AttackEntry.spawnFire = none)

instance (s : Session) (id : Int) : Decidable (s.PassesOver id) := inferInstanceAs (Decidable (_ ∧ (_ ∨ _ → _ ∧ _)))

/-- The animations of the exit of a teleport, which borrows the frames of the fog. -/
def borrowed (s : Session) (t : Thing) : Storyboard :=
  ThingDefinition.storyboard { session := s } t.ddfName
    (ThingDefinition.starts { t with spawn := ((s.thing? ThingDefinition.teleportFog).getD {}).spawn })

/-- State lists as a definition writes them. -/
def stateText (b : Storyboard) : String := String.join ((ThingDefinition.states b).map Clause.text)

/-- What marks do not reach makes no difference to a thing: the frames that the exit of a teleport borrows are
shown as in the unpatched game and strike with no scratch attack, and a weapon comes with as much
ammunition. -/
structure Unaffected (s : Session) (version id : Int) (t : Thing) : Prop where
  /-- The exit of a teleport. -/
  exit : id = ThingDefinition.teleportExit →
    stateText (s.borrowed t) = stateText ((new version).borrowed t) ∧ (s.borrowed t).scratches = []
  /-- Weapons. -/
  weapon : ∀ p name type, Pickup.ofThing? { session := new version } t = some p →
    p.benefit = .weapon name type → s.clips type = (new version).clips type

variable {s : Session} {id : Int} {t : Thing}

/-! ### What is written -/

/-- A thing that exists is defined as a projectile or as a thing. -/
theorem ofThing_of_thing? (hthing : s.thing? id = some t) :
    Draft.ofThing { session := s } id =
      if t.isAttack then Draft.attackThing { session := s } id t else Draft.plainThing { session := s } id t := by
  unfold Draft.ofThing
  rw [View.thing?_plain, hthing]

set_option maxRecDepth 4000 in
/-- The half of the cube that flies is a projectile. -/
theorem isAttack_spawnShot (hbase : Baseline.thing? AttackEntry.spawnShot = some t) : t.isAttack = true := by
  have hshot : ((Baseline.thing? AttackEntry.spawnShot).all (·.isAttack)) = true := by decide
  rw [hbase] at hshot
  exact hshot

set_option maxRecDepth 4000 in
/-- The thing that burns and the exit of a teleport are neither projectiles nor pickups. -/
theorem plain_of_mem (hid : id ∈ [AttackEntry.spawnFire, ThingDefinition.teleportExit])
    (hbase : Baseline.thing? id = some t) : t.isAttack = false ∧ t.has ThingFlag.special = false := by
  have hall : ∀ id ∈ [AttackEntry.spawnFire, ThingDefinition.teleportExit],
      ((Baseline.thing? id).all fun t => !t.isAttack && !t.has ThingFlag.special) = true := by decide
  have hplain := hall id hid
  rw [hbase] at hplain
  simpa using hplain

theorem mem_drafts_cube {v : View}
    (hmodified : (v.session.things.get? AttackEntry.spawnShot).isSome ∨
      (v.session.things.get? AttackEntry.spawnFire).isSome) : Draft.cube v ∈ Conversion.drafts v := by
  have hcube : Conversion.cubes v = [Draft.cube v] := by
    unfold Conversion.cubes SortedMap.contains
    rw [if_pos (Bool.or_eq_true _ _ ▸ hmodified)]
  unfold Conversion.drafts
  rw [hcube]
  simp

/-- Every modified thing is written. -/
theorem mem_drafts_of_modified (hthing : s.thing? id = some t) (hmodified : (s.things.get? id).isSome) :
    Draft.ofThing { session := s } id ∈ Conversion.drafts { session := s } := by
  have hrecord : Conversion.record { session := s } id = t := by
    unfold Conversion.record
    rw [View.thing?_plain, hthing]
    rfl
  have hkey : id ∈ s.things.keys := (SortedMap.mem_keys_iff _ _).2 hmodified
  rw [ofThing_of_thing? hthing]
  cases hattack : t.isAttack with
  | true =>
      by_cases hshot : id = AttackEntry.spawnShot
      · have hcube := mem_drafts_cube (v := { session := s }) (Or.inl (hshot ▸ hmodified))
        simpa [Draft.attackThing, hshot] using hcube
      · refine List.mem_append_left _ (List.mem_append_left _ (List.mem_append_right _ ?_))
        refine List.mem_map.2 ⟨id, List.mem_filter.2 ⟨hkey, ?_⟩, by rw [hrecord]; rfl⟩
        simp [hrecord, hattack, hshot]
  | false =>
      by_cases hfire : id = AttackEntry.spawnFire
      · have hcube := mem_drafts_cube (v := { session := s }) (Or.inr (hfire ▸ hmodified))
        simpa [Draft.plainThing, hfire] using hcube
      · refine List.mem_append_left _ (List.mem_append_left _ (List.mem_append_left _ ?_))
        refine List.mem_map.2 ⟨id, List.mem_filter.2 ⟨hkey, ?_⟩, by rw [hrecord]; rfl⟩
        simp [hrecord, hattack, hfire]

/-- Every thing that is not passed over is written. -/
theorem mem_drafts_of_not_passesOver (hthing : s.thing? id = some t) (hpass : ¬ s.PassesOver id) :
    Draft.ofThing { session := s } id ∈ Conversion.drafts { session := s } := by
  cases hget : s.things.get? id with
  | some t' => exact mem_drafts_of_modified hthing (by rw [hget]; rfl)
  | none =>
      -- The thing is half of the cube, and the other half is modified.
      have hbase : Baseline.thing? id = some t := (thing?_of_get?_eq_none hget).symm.trans hthing
      have hcube : Draft.cube { session := s } ∈ Conversion.drafts { session := s } := by
        apply mem_drafts_cube
        apply Classical.byContradiction
        intro hneither
        rw [not_or, Option.not_isSome_iff_eq_none, Option.not_isSome_iff_eq_none] at hneither
        exact hpass ⟨hget, fun _ => hneither⟩
      have hpart : id = AttackEntry.spawnShot ∨ id = AttackEntry.spawnFire := by
        apply Classical.byContradiction
        intro hother
        exact hpass ⟨hget, fun hpart => absurd hpart hother⟩
      rw [ofThing_of_thing? hthing]
      rcases hpart with rfl | rfl
      · rw [isAttack_spawnShot hbase]
        simpa [Draft.attackThing] using hcube
      · rw [(plain_of_mem (by decide) hbase).1]
        simpa [Draft.plainThing] using hcube

/-! ### What is passed over -/

/-- A thing that is neither the exit of a teleport nor a pickup is unaffected. -/
theorem unaffected_of_not_special (version : Int) (hexit : id ≠ ThingDefinition.teleportExit)
    (hspecial : t.has ThingFlag.special = false) : s.Unaffected version id t where
  exit := fun h => absurd h hexit
  weapon := by
    intro p name type hpickup
    rw [pickup_eq_none hspecial] at hpickup
    cases hpickup

/-- The cube is the one of the unpatched game if neither half is modified. -/
theorem cube_eq_new (hs : Reachable s) (version : Int) (hshot : s.things.get? AttackEntry.spawnShot = none)
    (hfire : s.things.get? AttackEntry.spawnFire = none) :
    ∃ d, Draft.cube { session := s } = .ok d ∧ Draft.cube { session := new version } = .ok d := by
  have hexist : (Baseline.thing? AttackEntry.spawnShot).isSome ∧ (Baseline.thing? AttackEntry.spawnFire).isSome :=
    ⟨Baseline.isSome_thing? (by decide), Baseline.isSome_thing? (by decide)⟩
  obtain ⟨shot, hshot₀⟩ := Option.isSome_iff_exists.1 hexist.1
  obtain ⟨fire, hfire₀⟩ := Option.isSome_iff_exists.1 hexist.2
  have hthing : s.thing? AttackEntry.spawnShot = some shot := (thing?_of_get?_eq_none hshot).trans hshot₀
  have hthing' : s.thing? AttackEntry.spawnFire = some fire := (thing?_of_get?_eq_none hfire).trans hfire₀
  have hnew : (new version).thing? AttackEntry.spawnShot = some shot := hshot₀
  have hnew' : (new version).thing? AttackEntry.spawnFire = some fire := hfire₀
  have hwithin := starts_within hs hshot hshot₀
  have hstarts : ∀ e ∈ AttackDefinition.cubeStarts shot fire, s.Within e.2 := by
    intro e hmem
    simp only [AttackDefinition.cubeStarts, List.mem_cons, List.not_mem_nil, or_false] at hmem
    rcases hmem with rfl | rfl
    · exact hwithin .spawn (by decide)
    · exact starts_within hs hfire hfire₀ .spawn (by decide)
  unfold Draft.cube
  rw [View.thing?_plain, View.thing?_plain, View.thing?_plain, View.thing?_plain, hthing, hthing', hnew, hnew']
  dsimp only
  rw [ThingDefinition.storyboard_eq (s.alike_new version) hstarts,
    AttackDefinition.block_eq (s.alike_new version) (hwithin .death (by decide))]
  exact ⟨_, rfl, rfl⟩

/-- A projectile that is passed over is the one of the unpatched game. -/
theorem attackThing_eq_new (hs : Reachable s) (version : Int) (hpass : s.PassesOver id)
    (hbase : Baseline.thing? id = some t) (hattack : t.isAttack = true) :
    ∃ d, Draft.attackThing { session := s } id t = .ok d ∧
      Draft.attackThing { session := new version } id t = .ok d := by
  unfold Draft.attackThing
  by_cases hshot : id = AttackEntry.spawnShot
  · rw [if_pos hshot, if_pos hshot]
    obtain ⟨hhalf, hother⟩ := hpass.2 (Or.inl hshot)
    exact cube_eq_new hs version hhalf hother
  · rw [if_neg hshot, if_neg hshot]
    obtain ⟨e, he⟩ := Option.isSome_iff_exists.1 (Baseline.attackEntry_of_isAttack hbase hattack).1
    have hwithin := starts_within hs hpass.1 hbase
    have hroles : ∀ role ∈ Role.ofAttack, role ∈ Role.ofThing := by decide
    have hstarts : ∀ e ∈ AttackDefinition.starts t, s.Within e.2 := by
      intro e hmem
      obtain ⟨role, hrole, rfl⟩ := List.mem_map.1 hmem
      exact hwithin role (hroles role hrole)
    rw [he]
    dsimp only
    rw [ThingDefinition.storyboard_eq (s.alike_new version) hstarts,
      AttackDefinition.block_eq (s.alike_new version) (hwithin .death (by decide))]
    exact ⟨_, rfl, rfl⟩

/-- The definition of a thing with the frames that it shows. -/
theorem exists_thing {v : View} {starts : List (Role × Int)} (hshown : ThingDefinition.shown? v id t = some starts) :
    ∃ d, Draft.thing v id t = .ok d ∧ d.kind = .things ∧ d.attack = none ∧
      d.block = ThingDefinition.block v id t (ThingDefinition.storyboard v t.ddfName starts) ∧
      d.scratches = (ThingDefinition.storyboard v t.ddfName starts).scratches := by
  unfold Draft.thing
  rw [hshown]
  exact ⟨_, rfl, rfl, rfl, rfl, rfl⟩

/-- What an unmodified thing gives reads as in the unpatched game exactly if it is no weapon that comes with
another amount of ammunition. -/
theorem gift_text_eq_iff (hs : Reachable s) (version : Int) (hid : s.things.get? id = none)
    (hbase : Baseline.thing? id = some t) :
    String.join ((gift { session := s } t).map Clause.text) =
        String.join ((gift { session := new version } t).map Clause.text) ↔
      ∀ p name type, Pickup.ofThing? { session := new version } t = some p →
        p.benefit = .weapon name type → s.clips type = (new version).clips type := by
  unfold gift
  rw [pickup_eq_new hs version hid hbase]
  cases hpickup : Pickup.ofThing? { session := new version } t with
  | none => simp
  | some p =>
      -- Only the first clause of a pickup quotes anything.
      have hclauses : String.join ((Pickup.clauses { session := s } p).map Clause.text) =
            String.join ((Pickup.clauses { session := new version } p).map Clause.text) ↔
          p.benefit.text { session := s } = p.benefit.text { session := new version } := by
        unfold Pickup.clauses
        simp only [List.map_append, List.map_cons, List.map_nil, String.join_append, String.append_left_inj,
          String.join_cons, String.join_nil, Clause.text, String.append_right_inj]
        exact Iff.rfl
      simp only [Option.map_some, Option.getD_some]
      rw [hclauses]
      cases hbenefit : p.benefit.isWeapon with
      | false =>
          refine iff_of_true (benefit_text_eq_new hs version hid hbase hpickup hbenefit) ?_
          rintro q name type hq hweapon
          cases hq
          rw [hweapon] at hbenefit
          cases hbenefit
      | true =>
          obtain ⟨name, type, hweapon⟩ : ∃ name type, p.benefit = .weapon name type := by
            cases hb : p.benefit <;> rw [hb] at hbenefit <;> first | exact ⟨_, _, rfl⟩ | cases hbenefit
          rw [hweapon, weapon_text_eq_iff hs version name type]
          constructor
          · rintro hclips q name' type' hq hweapon'
            cases hq
            rw [hweapon] at hweapon'
            cases hweapon'
            exact hclips
          · exact fun hall => hall p name type rfl hweapon

/-- A thing that shows its own frames fills the lumps of the unpatched game exactly if it is unaffected. -/
theorem thing_lumps_eq_iff (hs : Reachable s) (version : Int) (hid : s.things.get? id = none)
    (hbase : Baseline.thing? id = some t) (hexit : id ≠ ThingDefinition.teleportExit) :
    ∃ d d₀, Draft.thing { session := s } id t = .ok d ∧ Draft.thing { session := new version } id t = .ok d₀ ∧
      ((Press.publish {} d).buffer.lumps = (Press.publish {} d₀).buffer.lumps ↔ s.Unaffected version id t) := by
  have hshown : ∀ v, ThingDefinition.shown? v id t = some (ThingDefinition.starts t) := by
    intro v
    unfold ThingDefinition.shown?
    rw [if_neg hexit]
  obtain ⟨d, hd, hkind, hattack, hblock, hscratches⟩ := exists_thing (hshown { session := s })
  obtain ⟨d₀, hd₀, hkind₀, hattack₀, hblock₀, hscratches₀⟩ := exists_thing (hshown { session := new version })
  refine ⟨d, d₀, hd, hd₀, ?_⟩
  have hstarts : ∀ e ∈ ThingDefinition.starts t, s.Within e.2 := by
    intro e hmem
    obtain ⟨role, hrole, rfl⟩ := List.mem_map.1 hmem
    exact starts_within hs hid hbase role hrole
  have hboard := ThingDefinition.storyboard_eq (s.alike_new version) hstarts t.ddfName
  obtain ⟨front, middle, rear, hclauses⟩ := clauses_eq_new hs version hid hbase
  -- The state lists are the same, so the texts differ exactly where the gifts do.
  rw [Press.lumps_publish_eq_iff hkind hattack hkind₀ hattack₀, hscratches, hscratches₀, hblock, hblock₀, hboard]
  unfold ThingDefinition.block
  rw [(hclauses _).1, (hclauses _).2, ← List.append_assoc, ← List.append_assoc, ← List.append_assoc,
    ← List.append_assoc, Block.text_eq_iff, gift_text_eq_iff hs version hid hbase]
  constructor
  · rintro ⟨hgift, -⟩
    exact ⟨fun h => absurd h hexit, hgift⟩
  · exact fun hunaffected => ⟨hunaffected.weapon, rfl⟩

set_option maxRecDepth 4000 in
/-- In the unpatched game the exit of a teleport strikes with no scratch attack. -/
theorem borrowed_new_scratches (version : Int) (hbase : Baseline.thing? ThingDefinition.teleportExit = some t) :
    ((new version).borrowed t).scratches = [] := by
  have hall : ((Baseline.thing? ThingDefinition.teleportExit).all fun t => ((new 0).borrowed t).scratches.isEmpty) =
      true := by decide
  have hfog : (new version).thing? ThingDefinition.teleportFog = (new 0).thing? ThingDefinition.teleportFog := rfl
  have hsame : (new version).borrowed t = (new 0).borrowed t := by
    unfold borrowed
    rw [hfog]
    exact ThingDefinition.storyboard_eq ((new version).alike_new 0)
      (fun e _ => (undisturbed_new version e.2).within) t.ddfName
  rw [hbase, Option.all_some, List.isEmpty_iff] at hall
  rw [hsame, hall]

/-- The exit of a teleport fills the lumps of the unpatched game exactly if it is unaffected. -/
theorem exit_lumps_eq_iff (hs : Reachable s) (version : Int)
    (hid : s.things.get? ThingDefinition.teleportExit = none)
    (hbase : Baseline.thing? ThingDefinition.teleportExit = some t) :
    ∃ d d₀, Draft.thing { session := s } ThingDefinition.teleportExit t = .ok d ∧
      Draft.thing { session := new version } ThingDefinition.teleportExit t = .ok d₀ ∧
      ((Press.publish {} d).buffer.lumps = (Press.publish {} d₀).buffer.lumps ↔
        s.Unaffected version ThingDefinition.teleportExit t) := by
  have hshown : ∀ s : Session, ThingDefinition.shown? { session := s } ThingDefinition.teleportExit t =
      some (ThingDefinition.starts { t with spawn := ((s.thing? ThingDefinition.teleportFog).getD {}).spawn }) := by
    intro s
    have hfog : (Baseline.thing? ThingDefinition.teleportFog).isSome := Baseline.isSome_thing? (by decide)
    obtain ⟨fog, hfog⟩ := Option.isSome_iff_exists.1 (isSome_thing?_of_baseline (s := s) hfog)
    unfold ThingDefinition.shown?
    rw [if_pos rfl, View.thing?_plain, hfog]
    rfl
  obtain ⟨d, hd, hkind, hattack, hblock, hscratches⟩ := exists_thing (hshown s)
  obtain ⟨d₀, hd₀, hkind₀, hattack₀, hblock₀, hscratches₀⟩ := exists_thing (hshown (new version))
  refine ⟨d, d₀, hd, hd₀, ?_⟩
  have hspecial : t.has ThingFlag.special = false := (plain_of_mem (by decide) hbase).2
  obtain ⟨front, middle, rear, hclauses⟩ := clauses_eq_new hs version hid hbase
  have hgift : ∀ v, gift v t = [] := by
    intro v
    unfold gift
    rw [pickup_eq_none hspecial]
    rfl
  -- There is no gift, so the texts differ exactly where the borrowed state lists do.
  have hscratch : d₀.scratches = [] := hscratches₀.trans (borrowed_new_scratches version hbase)
  rw [Press.lumps_publish_eq_iff hkind hattack hkind₀ hattack₀, hscratch, hscratches, hblock, hblock₀,
    (Press.scratchText?_eq_none_iff []).2 rfl, Press.scratchText?_eq_none_iff]
  unfold ThingDefinition.block
  rw [(hclauses _).1, (hclauses _).2, hgift, hgift, Block.text_eq_iff]
  constructor
  · exact fun hsame => ⟨fun _ => hsame, fun p _ _ hp => by rw [pickup_eq_none hspecial] at hp; cases hp⟩
  · exact fun hunaffected => hunaffected.exit rfl

/-- A thing that is passed over and is no projectile fills the lumps of the unpatched game exactly if it is
unaffected. -/
theorem plainThing_lumps_eq_iff (hs : Reachable s) (version : Int) (hpass : s.PassesOver id)
    (hbase : Baseline.thing? id = some t) :
    ∃ d d₀, Draft.plainThing { session := s } id t = .ok d ∧
      Draft.plainThing { session := new version } id t = .ok d₀ ∧
      ((Press.publish {} d).buffer.lumps = (Press.publish {} d₀).buffer.lumps ↔ s.Unaffected version id t) := by
  unfold Draft.plainThing
  by_cases hfire : id = AttackEntry.spawnFire
  · rw [if_pos hfire, if_pos hfire]
    obtain ⟨hhalf, hother⟩ := hpass.2 (Or.inr hfire)
    obtain ⟨d, hd, hd₀⟩ := cube_eq_new hs version hhalf hother
    have hplain := plain_of_mem (by rw [hfire]; decide) hbase
    exact ⟨d, d, hd, hd₀, iff_of_true rfl (unaffected_of_not_special version (by rw [hfire]; decide) hplain.2)⟩
  · rw [if_neg hfire, if_neg hfire]
    by_cases hexit : id = ThingDefinition.teleportExit
    · subst hexit
      exact exit_lumps_eq_iff hs version hpass.1 hbase
    · exact thing_lumps_eq_iff hs version hpass.1 hbase hexit

/-- A thing that is passed over fills the lumps of the unpatched game exactly if it is unaffected. -/
theorem passesOver_lumps_eq_iff (hs : Reachable s) (version : Int) (hpass : s.PassesOver id)
    (hthing : s.thing? id = some t) :
    ∃ p p₀, Press.convertThing {} { session := s } id = .ok p ∧
      Press.convertThing {} { session := new version } id = .ok p₀ ∧
      (p.buffer.lumps = p₀.buffer.lumps ↔ s.Unaffected version id t) := by
  have hbase : Baseline.thing? id = some t := (thing?_of_get?_eq_none hpass.1).symm.trans hthing
  have hnew : (new version).thing? id = some t := hbase
  obtain ⟨d, d₀, hd, hd₀, hlumps⟩ : ∃ d d₀, Draft.ofThing { session := s } id = .ok d ∧
      Draft.ofThing { session := new version } id = .ok d₀ ∧
      ((Press.publish {} d).buffer.lumps = (Press.publish {} d₀).buffer.lumps ↔ s.Unaffected version id t) := by
    rw [ofThing_of_thing? hthing, ofThing_of_thing? hnew]
    cases hattack : t.isAttack with
    | true =>
        have hexit : id ≠ ThingDefinition.teleportExit := by
          rintro rfl
          rw [(plain_of_mem (by decide) hbase).1] at hattack
          cases hattack
        obtain ⟨d, hd, hd₀⟩ := attackThing_eq_new hs version hpass hbase hattack
        exact ⟨d, d, hd, hd₀, iff_of_true rfl
          (unaffected_of_not_special version hexit (Baseline.attackEntry_of_isAttack hbase hattack).2)⟩
    | false => exact plainThing_lumps_eq_iff hs version hpass hbase
  refine ⟨Press.publish {} d, Press.publish {} d₀, ?_, ?_, hlumps⟩
  · unfold Press.convertThing
    rw [hd]
    rfl
  · unfold Press.convertThing
    rw [hd₀]
    rfl

/-- As long as the fog and ammunition are as in the unpatched game, nothing is overlooked. -/
theorem unaffected_of_sources (hs : Reachable s) (version : Int) (hpass : s.PassesOver id)
    (hthing : s.thing? id = some t) (hfog : s.things.get? ThingDefinition.teleportFog = none)
    (hammo : ∀ a, s.ammo.get? a = none) : s.Unaffected version id t := by
  have hbase : Baseline.thing? id = some t := (thing?_of_get?_eq_none hpass.1).symm.trans hthing
  constructor
  · rintro rfl
    have hexists : (Baseline.thing? ThingDefinition.teleportFog).isSome := Baseline.isSome_thing? (by decide)
    obtain ⟨fog, hfog₀⟩ := Option.isSome_iff_exists.1 hexists
    have hsame : s.borrowed t = (new version).borrowed t := by
      have hthing : s.thing? ThingDefinition.teleportFog = some fog := (thing?_of_get?_eq_none hfog).trans hfog₀
      have hnew : (new version).thing? ThingDefinition.teleportFog = some fog := hfog₀
      unfold borrowed
      rw [hthing, hnew, Option.getD_some]
      refine ThingDefinition.storyboard_eq (s.alike_new version) ?_ t.ddfName
      intro e hmem
      obtain ⟨role, hrole, rfl⟩ := List.mem_map.1 hmem
      -- The first role is the fog's, the others are the exit's own.
      by_cases hspawn : role = .spawn
      · subst hspawn
        exact starts_within hs hfog hfog₀ .spawn (by decide)
      · have hown : Thing.start { t with spawn := fog.spawn } role = t.start role := by
          cases role <;> first | rfl | exact absurd rfl hspawn
        dsimp only
        rw [hown]
        exact starts_within hs hpass.1 hbase role hrole
    rw [hsame]
    exact ⟨rfl, borrowed_new_scratches version hbase⟩
  · intro p name type _ _
    unfold clips ammo?
    rw [hammo]
    rfl

end Session

open Session in
/-- After any edits, every existing thing is written by a conversion of the whole game or passed over.  What is
passed over can be converted, and it fills the lumps of the unpatched game exactly if it is unaffected; so it
does as long as the fog and ammunition are not modified. -/
theorem convertThing_passesOver_iff (version : Int) (edits : List Edit) {id : Int} {t : Thing}
    (hthing : (patched version edits).thing? id = some t) :
    (¬ (patched version edits).PassesOver id →
      Draft.ofThing { session := patched version edits } id ∈
        Conversion.drafts { session := patched version edits }) ∧
    ((patched version edits).PassesOver id →
      (∃ p p₀, Press.convertThing {} { session := patched version edits } id = .ok p ∧
        Press.convertThing {} { session := new version } id = .ok p₀ ∧
        (p.buffer.lumps = p₀.buffer.lumps ↔ (patched version edits).Unaffected version id t)) ∧
      ((patched version edits).things.get? ThingDefinition.teleportFog = none →
        (∀ a, (patched version edits).ammo.get? a = none) →
        (patched version edits).Unaffected version id t)) := by
  have hs := reachable_patched version edits
  refine ⟨mem_drafts_of_not_passesOver hthing, fun hpass => ⟨?_, ?_⟩⟩
  · exact passesOver_lumps_eq_iff hs version hpass hthing
  · exact unaffected_of_sources hs version hpass hthing

open Session in
/-- A fog that starts with the null frame makes the exit of a teleport another one, yet the exit is passed
over. -/
theorem convertThing_passesOver_exit :
    ∃ s, s = patched 21 [.thingField 39 "Initial frame" 0] ∧
      (s.thing? 41).isSome ∧ s.PassesOver 41 ∧
      ∃ p p₀, Press.convertThing {} { session := s } 41 = .ok p ∧
        Press.convertThing {} { session := new 21 } 41 = .ok p₀ ∧ p.buffer.lumps ≠ p₀.buffer.lumps := by
  have hexists : ((patched 21 [.thingField 39 "Initial frame" 0]).thing? 41).isSome := by
    set_option maxRecDepth 4000 in decide
  have hpass : (patched 21 [.thingField 39 "Initial frame" 0]).PassesOver 41 := by decide
  obtain ⟨t, hthing⟩ := Option.isSome_iff_exists.1 hexists
  obtain ⟨⟨p, p₀, hp, hp₀, hlumps⟩, -⟩ := (convertThing_passesOver_iff 21 _ hthing).2 hpass
  refine ⟨_, rfl, hexists, hpass, p, p₀, hp, hp₀, fun hsame => ?_⟩
  have hshown : ((patched 21 [.thingField 39 "Initial frame" 0]).thing? 41).all (fun t =>
      stateText ((patched 21 [.thingField 39 "Initial frame" 0]).borrowed t) !=
        stateText ((new 21).borrowed t)) = true := by
    set_option maxRecDepth 4000 in decide
  rw [hthing, Option.all_some, bne_iff_ne] at hshown
  exact hshown ((hlumps.1 hsame).exit rfl).1

open Session in
/-- A larger clip changes what the shotgun comes with, yet the shotgun is passed over. -/
theorem shotgun_passed_over :
    ∃ s, s = patched 21 [.ammoField 1 "Per ammo" 8] ∧
      (s.thing? 77).isSome ∧ s.PassesOver 77 ∧
      ∃ p p₀, Press.convertThing {} { session := s } 77 = .ok p ∧
        Press.convertThing {} { session := new 21 } 77 = .ok p₀ ∧ p.buffer.lumps ≠ p₀.buffer.lumps := by
  have hexists : ((patched 21 [.ammoField 1 "Per ammo" 8]).thing? 77).isSome := by
    set_option maxRecDepth 4000 in decide
  have hpass : (patched 21 [.ammoField 1 "Per ammo" 8]).PassesOver 77 := by decide
  have hs := reachable_patched 21 [.ammoField 1 "Per ammo" 8]
  obtain ⟨t, hthing⟩ := Option.isSome_iff_exists.1 hexists
  obtain ⟨p, p₀, hp, hp₀, hlumps⟩ := passesOver_lumps_eq_iff hs 21 hpass hthing
  refine ⟨_, rfl, hexists, hpass, p, p₀, hp, hp₀, fun hsame => ?_⟩
  have hweapon : (((patched 21 [.ammoField 1 "Per ammo" 8]).thing? 77).bind
      (Pickup.ofThing? { session := new 21 })).map (·.benefit) = some (.weapon "SHOTGUN" 1) := by
    set_option maxRecDepth 4000 in decide
  rw [hthing, Option.bind_some] at hweapon
  obtain ⟨pickup, hpickup, hbenefit⟩ := Option.map_eq_some_iff.1 hweapon
  have hclips : (patched 21 [.ammoField 1 "Per ammo" 8]).clips 1 ≠ (new 21).clips 1 := by decide
  exact hclips ((hlumps.1 hsame).weapon pickup "SHOTGUN" 1 hpickup hbenefit)

end DoomPatch
