import DoomPatch.Proofs.Conversion.Desk
import DoomPatch.Proofs.Session.Move

/-!
# Conversions that fail

A conversion that fails leaves no part of an entity behind.  Whatever can be missing is looked for before a name is
claimed or a lump is selected, so where one entity fails the desk is as it was; and where everything is converted, the
entities in front of the one that failed are there in full.

* `Desk.Rested` — the state of a desk between calls.
* `Follows.unchanged`, `Follows.rested` — an entity that fails changes nothing, and one that does not leaves the desk
  rested.
* `exists_failed` — entities are converted in order up to the first that fails.
* `failed_conversion_leaves_nothing` — what a failed call leaves.
-/

namespace DoomPatch

theorem Press.current_publish {p : Press} (hcurrent : p.buffer.current = none) (draft : Draft) :
    (p.publish draft).buffer.current = none := by
  have hdraft : ∀ q : Press, (q.writeDraft draft).buffer.current = none := by
    intro q
    unfold writeDraft writeScratches
    dsimp only
    split <;> rfl
  have hreserve : ∀ name id, (p.reserve name id).2.buffer = p.buffer := by
    intro name id
    unfold reserve
    split <;> rfl
  unfold publish
  cases draft.attack with
  | none => exact hdraft p
  | some id =>
      dsimp only
      split
      · exact hdraft _
      · rw [hreserve]
        exact hcurrent

namespace Desk

variable {d d' : Desk} {e : ConversionError} {v : View} {work : Work Unit} {draft : Except ConversionError Draft}

/-- The state of a desk between calls: no lump is selected, and no scratch attack is pending. -/
structure Rested (d : Desk) : Prop where
  pending : d.pending = []
  current : d.buffer.current = none

theorem Rested.eq (hd : d.Rested) : d = ⟨d.toPress, []⟩ := by
  obtain ⟨p, pending⟩ := d
  obtain rfl : pending = [] := hd.pending
  rfl

/-- What a press makes of one entity, as a result of work at its desk. -/
def ofOne (d : Desk) : Except ConversionError Press → EStateM.Result ConversionError Desk Unit
  | .ok p => .ok () ⟨p, []⟩
  | .error e => .error e d

theorem Follows.run_eq (hfollows : Follows work draft) (hd : d.Rested) :
    work.run d = ofOne d (draft.map d.toPress.publish) := by
  have hrun := hfollows d.toPress
  rw [← hd.eq] at hrun
  rw [hrun]
  cases draft <;> rfl

theorem Follows.unchanged (hfollows : Follows work draft) (hd : d.Rested) (hfails : work.run d = .error e d') :
    d' = d := by
  have hrun := hfollows.run_eq hd
  rw [hfails] at hrun
  cases draft with
  | ok draft => cases hrun
  | error err =>
      cases hrun
      rfl

theorem Follows.rested (hfollows : Follows work draft) (hd : d.Rested) (hworks : work.run d = .ok () d') :
    d'.Rested := by
  have hrun := hfollows.run_eq hd
  rw [hworks] at hrun
  cases draft with
  | ok draft =>
      cases hrun
      exact ⟨rfl, Press.current_publish hd.current draft⟩
  | error err => cases hrun

/-- Entities are converted in order up to the first that fails, which changes nothing. -/
theorem exists_failed {es : List Entity} (hd : d.Rested) (hfails : (forM es (Entity.convert v)).run d = .error e d') :
    ∃ done failed rest, es = done ++ failed :: rest ∧ (forM done (Entity.convert v)).run d = .ok () d' ∧
      (failed.convert v).run d' = .error e d' ∧ d'.Rested := by
  induction es generalizing d with
  | nil => cases hfails
  | cons entity es ih =>
      rw [run_forM_cons] at hfails
      cases hfirst : (entity.convert v).run d with
      | error err d₁ =>
          have hsame : d₁ = d := (entity.convert_follows v).unchanged hd hfirst
          rw [run_bind_of_error hfirst] at hfails
          cases hfails
          subst hsame
          exact ⟨[], entity, es, rfl, rfl, hfirst, hd⟩
      | ok done d₁ =>
          rw [run_bind_of_ok hfirst] at hfails
          obtain ⟨done, failed, rest, hes, hdone, hfailed, hrested⟩ :=
            ih ((entity.convert_follows v).rested hd hfirst) hfails
          refine ⟨entity :: done, failed, rest, by rw [hes]; rfl, ?_, hfailed, hrested⟩
          rw [run_forM_cons, run_bind_of_ok hfirst, hdone]

/-- What is converted behind the entities cannot fail. -/
theorem run_modified_of_error (hd : d.Rested) (hfails : (convertAll v).run d = .error e d') :
    (forM (Entity.modified v) (Entity.convert v)).run d = .error e d' := by
  rw [hd.eq] at hfails ⊢
  rw [run_convertAll] at hfails
  rw [run_entities, ← Entity.drafts_eq]
  unfold Press.convertAll at hfails
  cases hall : d.toPress.publishAll (Conversion.drafts v) with
  | mk q failed =>
      rw [hall] at hfails
      cases failed with
      | some err => exact hfails
      | none => cases hfails

end Desk

namespace Entity

variable {v : View} {id : Int} {t : Thing}

theorem thing_mem_modified (hmem : .thing id ∈ modified v) : (Conversion.record v id).isAttack = false := by
  unfold modified at hmem
  split at hmem <;> simp_all

theorem projectile_mem_modified (hmem : .projectile id ∈ modified v) :
    (Conversion.record v id).isAttack = true := by
  unfold modified at hmem
  split at hmem <;> simp_all

theorem record_eq (hthing : v.thing? id = some t) : Conversion.record v id = t := by
  unfold Conversion.record
  rw [hthing]
  rfl

/-- A thing that can be seen is converted with everything else as it is converted alone. -/
theorem convert_thing (hmem : .thing id ∈ modified v) (hvisible : (v.thing? id).isSome) :
    (thing id).convert v = Desk.convertThing v id := by
  obtain ⟨t, hthing⟩ := Option.isSome_iff_exists.1 hvisible
  have hplain := thing_mem_modified hmem
  change Desk.thing v id (Conversion.record v id) = _
  unfold Desk.convertThing
  rw [record_eq hthing] at hplain ⊢
  simp [hthing, hplain]

/-- A projectile is always seen, for it is its name that makes it one. -/
theorem convert_projectile (hmem : .projectile id ∈ modified v) :
    (projectile id).convert v = Desk.convertThing v id := by
  have hattack := projectile_mem_modified hmem
  change Desk.projectile v id (Conversion.record v id) = _
  unfold Desk.convertThing
  cases hthing : v.thing? id with
  | none =>
      unfold Conversion.record at hattack
      rw [hthing] at hattack
      cases hattack
  | some t =>
      rw [record_eq hthing] at hattack ⊢
      simp [hattack]

end Entity

namespace Desk

/-- A call that fails leaves no part of an entity behind, whatever is hidden or renamed, whatever was written before and
whichever names are used.  A conversion of one entity that fails changes nothing.  Where everything is converted up to
an entity that fails, the desk is as the entities in front of it leave it, converted one after the other: no lump is
selected and no scratch attack is pending.  Step by step everything is as a press does it. -/
theorem failed_conversion_leaves_nothing (v : View) {d : Desk} (hd : d.Rested) :
    (∀ id e d', (convertThing v id).run d = .error e d' → d' = d) ∧
    (∀ id e d', (convertWeapon v id).run d = .error e d' → d' = d) ∧
    (∀ e d', (convertAll v).run d = .error e d' → d'.Rested ∧
      ∃ done failed rest, Entity.modified v = done ++ failed :: rest ∧
        (forM done (Entity.convert v)).run d = .ok () d' ∧ (failed.convert v).run d' = .error e d') ∧
    (∀ id, (.thing id ∈ Entity.modified v → (v.thing? id).isSome → (Entity.thing id).convert v = convertThing v id) ∧
      (.projectile id ∈ Entity.modified v → (Entity.projectile id).convert v = convertThing v id)) ∧
    (∀ id, (convertThing v id).run d = ofOne d (d.toPress.convertThing v id)) ∧
    (∀ id, (convertWeapon v id).run d = ofOne d (d.toPress.convertWeapon v id)) ∧
    (convertAll v).run d = outcome (d.toPress.convertAll v) := by
  refine ⟨fun id e d' hfails => (convertThing_follows v id).unchanged hd hfails,
    fun id e d' hfails => (convertWeapon_follows v id).unchanged hd hfails, ?_,
    fun id => ⟨Entity.convert_thing, Entity.convert_projectile⟩,
    fun id => (convertThing_follows v id).run_eq hd, fun id => (convertWeapon_follows v id).run_eq hd, ?_⟩
  · intro e d' hfails
    obtain ⟨done, failed, rest, hmodified, hdone, hfailed, hrested⟩ :=
      exists_failed hd (run_modified_of_error hd hfails)
    exact ⟨hrested, done, failed, rest, hmodified, hdone, hfailed⟩
  · rw [hd.eq]
    exact run_convertAll v d.toPress

/-- The thing that burns is hidden, so the cube cannot be made; the thing in front of it is converted. -/
theorem failed_conversion_leaves_nothing_cube :
    let v : View := {
      session := Session.patched 21 [.thingField 11 "Mass" 500, .thingField 28 "Speed" 20]
      hidden := [AttackEntry.spawnFire] }
    Rested {} ∧ Entity.modified v = [.thing 11, .cube] ∧
      ∃ d', (convertAll v).run {} = .error .noSpawnFire d' ∧ d'.Rested ∧
        ∃ done failed rest, Entity.modified v = done ++ failed :: rest ∧
          (forM done (Entity.convert v)).run {} = .ok () d' ∧ (failed.convert v).run d' = .error .noSpawnFire d' := by
  intro v
  have hrested : Rested {} := ⟨rfl, rfl⟩
  obtain ⟨-, -, hall, -, -, -, hpress⟩ := failed_conversion_leaves_nothing v hrested
  have hmodified : Entity.modified v = [.thing 11, .cube] := by
    set_option maxRecDepth 4000 in decide
  have hfault : (({} : Press).convertAll v).2 = some .noSpawnFire := by
    set_option maxRecDepth 4000 in decide
  obtain ⟨d', hfails⟩ : ∃ d', (convertAll v).run {} = .error .noSpawnFire d' := by
    rw [hpress]
    cases hconvert : ({} : Press).convertAll v with
    | mk p failed =>
        rw [hconvert] at hfault
        obtain rfl : failed = some .noSpawnFire := hfault
        exact ⟨_, rfl⟩
  exact ⟨hrested, hmodified, d', hfails, hall _ _ hfails⟩

end Desk
end DoomPatch
