import DoomPatch.Conversion
import DoomPatch.Proofs.Session.Refusal

/-!
# Raising the version of a patch

The version decides which numbers are refused.  A later version takes every number that an earlier one takes, so edits
that leave no warning do the same under any later version, and what is written from the result does not depend on the
version.

* `Limits.Within`, `Limits.within_of_le` — later limits allow what earlier ones allow.
* `Overlay.rewriteAll_of_extends` — writes come to the same where more records could be opened than are needed.
* `carry_setVersion`, `apply_setVersion` — a change and an edit that leave no warning, under a later version.
* `applyAll_raised` — all edits, and the conversion of what they lead to.
-/

namespace DoomPatch

/-- The second limits allow whatever the first allow. -/
structure Limits.Within (a b : Limits) : Prop where
  frames : a.frames ≤ b.frames
  sounds : a.sounds ≤ b.sounds
  sprites : a.sprites ≤ b.sprites
  extended : a.extended = true → b.extended = true

theorem Limits.within_of_le {v w : Int} (hle : v ≤ w) : (ofVersion v).Within (ofVersion w) := by
  unfold ofVersion
  by_cases hw : extendedVersion ≤ w
  · rw [if_pos hw]
    split
    · exact ⟨Int.le_refl _, Int.le_refl _, Int.le_refl _, id⟩
    · exact ⟨by decide, by decide, by decide, nofun⟩
  · rw [if_neg hw, if_neg (by omega)]
    exact ⟨Int.le_refl _, Int.le_refl _, Int.le_refl _, id⟩

theorem FieldKind.validate_of_within {kind : FieldKind} {field : String} {value : Int} {a b : Limits}
    (hwithin : a.Within b) (hvalid : kind.validate field value a = .ok ()) :
    kind.validate field value b = .ok () := by
  have hindex : ∀ {x y : Int}, x ≤ y → checkIndex field value x = .ok () → checkIndex field value y = .ok () := by
    intro x y hle hx
    unfold checkIndex at hx ⊢
    split at hx
    · cases hx
    · rw [if_neg (by omega)]
  cases kind with
  | frame => exact hindex hwithin.frames hvalid
  | sound => exact hindex hwithin.sounds hvalid
  | sprite => exact hindex hwithin.sprites hvalid
  | _ => exact hvalid

namespace Overlay

variable {ρ : Type} {base base' : Int → Except RangeError ρ} {m : SortedMap Int ρ}

theorem opened_of_extends (hbase : ∀ id r, base id = .ok r → base' id = .ok r) {id : Int} {r : ρ}
    (hopen : opened base m id = .ok r) : opened base' m id = .ok r := by
  cases hget : m.get? id with
  | some r' =>
      rw [opened_of_get? hget] at hopen ⊢
      exact hopen
  | none =>
      rw [opened_of_get?_eq_none hget] at hopen ⊢
      exact hbase id r hopen

/-- Writes to records that can be opened come to the same if yet more could be opened. -/
theorem rewriteAll_of_extends (hbase : ∀ id r, base id = .ok r → base' id = .ok r) {ws : List (Write ρ)}
    (hws : ∀ id ∈ written ws, (opened base m id).isOk = true) : rewriteAll base' m ws = rewriteAll base m ws := by
  induction ws generalizing m with
  | nil => rfl
  | cons w ws ih =>
      rw [written_cons, List.forall_mem_cons] at hws
      obtain ⟨r, hopen⟩ := Session.exists_ok_of_isOk hws.1
      have hone : rewrite base' m w = rewrite base m w := by
        unfold rewrite
        rw [hopen, opened_of_extends hbase hopen]
      rw [rewriteAll_cons, rewriteAll_cons, hone]
      refine ih fun id hid => ?_
      have hkept : (opened base (rewrite base m w) id).isOk = (opened base m id).isOk := isOk_opened_rewriteAll [w] id
      rw [hkept]
      exact hws.2 id hid

end Overlay

namespace Session

open Overlay

variable {s s' : Session} {version : Int} {c : Change} {e : Edit}

/-! ### What is accepted -/

theorem resolve_setVersion {φ ρ : Type} {table : FieldTable φ ρ} {entity field : String} {id value : Int} {f : φ}
    (hle : s.version ≤ version) (hresolve : s.resolve table entity id field value = .ok f) :
    (s.setVersion version).resolve table entity id field value = .ok f := by
  have hvalid : table.validate f value (s.setVersion version).limits = .ok () :=
    FieldKind.validate_of_within (Limits.within_of_le hle) (resolve_validates hresolve)
  unfold resolve
  rw [find?_of_resolve hresolve]
  dsimp only
  rw [hvalid]

theorem checkId_eq_ok_iff {entity : String} {id size : Int} :
    s.checkId entity id size = .ok () ↔
      0 ≤ id ∧ (id < size ∨ (s.limits.extended = true ∧ id ≤ Limits.extendedMax)) := by
  unfold checkId
  cases s.limits.extended <;> grind

/-- A record that a change can start from is the same under a later version. -/
theorem map_checkId_raised {ρ : Type} {v w : Int} (hle : v ≤ w) {entity : String} {id size : Int} {start : Unit → ρ}
    {r : ρ} (hstart : ((new v).checkId entity id size).map start = .ok r) :
    ((new w).checkId entity id size).map start = .ok r := by
  cases hcheck : (new v).checkId entity id size with
  | error err =>
      rw [hcheck] at hstart
      cases hstart
  | ok u =>
      obtain ⟨hnonneg, hbound⟩ := checkId_eq_ok_iff.1 hcheck
      have hcheck' : (new w).checkId entity id size = .ok () :=
        checkId_eq_ok_iff.2 ⟨hnonneg, hbound.imp_right (And.imp_left (Limits.within_of_le hle).extended)⟩
      rwa [hcheck', ← hcheck]

theorem thingBase_raised {v w : Int} (hle : v ≤ w) (id : Int) (t : Thing) (hbase : thingBase v id = .ok t) :
    thingBase w id = .ok t := map_checkId_raised hle hbase

theorem frameBase_raised {v w : Int} (hle : v ≤ w) (id : Int) (f : Frame) (hbase : frameBase v id = .ok f) :
    frameBase w id = .ok f := map_checkId_raised hle hbase

theorem soundBase_raised {v w : Int} (hle : v ≤ w) (id : Int) (snd : Sound) (hbase : soundBase v id = .ok snd) :
    soundBase w id = .ok snd := map_checkId_raised hle hbase

theorem openFrame_setVersion {id : Int} {f : Frame} (hle : s.version ≤ version) (hopen : s.openFrame id = .ok f) :
    (s.setVersion version).openFrame id = .ok f := by
  rw [openFrame_eq] at hopen ⊢
  exact opened_of_extends (frameBase_raised hle) hopen

theorem admits_setVersion (hle : s.version ≤ version) (hadmits : s.admits c = true) :
    (s.setVersion version).admits c = true := by
  have hok : ∀ {ρ : Type} {found found' : Except RangeError ρ}, (∀ r, found = .ok r → found' = .ok r) →
      found.isOk = true → found'.isOk = true := by
    intro ρ found found' hsame hfound
    obtain ⟨r, hr⟩ := exists_ok_of_isOk hfound
    rw [hsame r hr]
    rfl
  cases c with
  | thing id field alter =>
      refine hok (fun t hopen => ?_) hadmits
      rw [openThing_eq] at hopen ⊢
      exact opened_of_extends (thingBase_raised hle) hopen
  | frame id field alter => exact hok (fun f hopen => openFrame_setVersion hle hopen) hadmits
  | sound id field alter =>
      refine hok (fun snd hopen => ?_) hadmits
      rw [openSound_eq] at hopen ⊢
      exact opened_of_extends (soundBase_raised hle) hopen
  | _ => exact hadmits

/-! ### One change -/

theorem isOk_openFrame_of_written {id : Int} (hadmits : s.admits c = true) (hid : id ∈ written c.frameWrites) :
    (s.openFrame id).isOk = true := by
  cases c with
  | frame i field alter =>
      rw [Change.frameWrites, written_cons, written_nil, List.mem_singleton] at hid
      exact hid ▸ hadmits
  | _ => cases hid

theorem isOk_openSound_of_written {id : Int} (hadmits : s.admits c = true) (hid : id ∈ written c.soundWrites) :
    (s.openSound id).isOk = true := by
  cases c with
  | sound i field alter =>
      rw [Change.soundWrites, written_cons, written_nil, List.mem_singleton] at hid
      exact hid ▸ hadmits
  | _ => cases hid

/-- What a change touches does not depend on the version once the change is carried out. -/
theorem writes_setVersion (hle : s.version ≤ version) (hadmits : s.admits c = true) :
    (s.setVersion version).thingWrites c = s.thingWrites c ∧
      (s.setVersion version).weaponWrites c = s.weaponWrites c := by
  cases c with
  | frame id field alter =>
      obtain ⟨f, hopen⟩ := exists_ok_of_isOk hadmits
      rw [thingWrites, thingWrites, weaponWrites, weaponWrites, hopen, openFrame_setVersion hle hopen]
      exact ⟨rfl, rfl⟩
  | _ => exact ⟨rfl, rfl⟩

/-- A change that is carried out has the same effect under a later version. -/
theorem carry_setVersion (hle : s.version ≤ version) (hadmits : s.admits c = true) :
    (s.setVersion version).carry c = (s.carry c).setVersion version := by
  have hthings : rewriteAll (thingBase version) s.things (s.thingWrites c) =
      rewriteAll (thingBase s.version) s.things (s.thingWrites c) :=
    rewriteAll_of_extends (thingBase_raised hle) fun id hid =>
      s.openThing_eq id ▸ isOk_openThing_of_written hadmits hid
  have hframes : rewriteAll (frameBase version) s.frames c.frameWrites =
      rewriteAll (frameBase s.version) s.frames c.frameWrites :=
    rewriteAll_of_extends (frameBase_raised hle) fun id hid =>
      s.openFrame_eq id ▸ isOk_openFrame_of_written hadmits hid
  have hsounds : rewriteAll (soundBase version) s.sounds c.soundWrites =
      rewriteAll (soundBase s.version) s.sounds c.soundWrites :=
    rewriteAll_of_extends (soundBase_raised hle) fun id hid =>
      s.openSound_eq id ▸ isOk_openSound_of_written hadmits hid
  obtain ⟨hthingWrites, hweaponWrites⟩ := writes_setVersion hle hadmits
  rw [carry_eq, carry_eq, complaints_of_admits hadmits, complaints_of_admits (admits_setVersion hle hadmits),
    hthingWrites, hweaponWrites]
  unfold setVersion
  dsimp only
  rw [hthings, hframes, hsounds]

/-- Warnings are only added. -/
theorem warnings_prefix_carryAll (cs : List Change) (s : Session) : s.warnings <+: (s.carryAll cs).warnings := by
  induction cs generalizing s with
  | nil => exact List.prefix_refl _
  | cons c cs ih =>
      have hone : s.warnings <+: (s.carry c).warnings := by
        rw [warnings_carry]
        exact List.prefix_append _ _
      exact hone.trans (ih (s.carry c))

/-- Changes that leave no warning are all carried out, and have the same effect under a later version. -/
theorem carryAll_setVersion {cs : List Change} (hle : s.version ≤ version)
    (hquiet : (s.carryAll cs).warnings = s.warnings) :
    (∀ w, .warn w ∉ cs) ∧ (s.setVersion version).carryAll cs = (s.carryAll cs).setVersion version := by
  induction cs generalizing s with
  | nil => exact ⟨fun _ => List.not_mem_nil, rfl⟩
  | cons c cs ih =>
      have hlater : (s.carry c).warnings <+: s.warnings := hquiet ▸ warnings_prefix_carryAll cs (s.carry c)
      rcases s.carry_warns c with ⟨hadmits, hsame⟩ | ⟨-, w, hwarned⟩
      · have hle' : (s.carry c).version ≤ version := by rwa [version_carry]
        obtain ⟨hnone, hrest⟩ := ih hle' (hquiet.trans hsame.symm)
        refine ⟨fun w hmem => ?_, ?_⟩
        · rcases List.mem_cons.1 hmem with rfl | hmem
          · cases hadmits
          · exact hnone w hmem
        · change ((s.setVersion version).carry c).carryAll cs = _
          rw [carry_setVersion hle hadmits]
          exact hrest
      · have hlength := hlater.length_le
        rw [hwarned, List.length_append, List.length_singleton] at hlength
        omega

/-! ### Edits -/

theorem fieldChange_setVersion {φ ρ : Type} {table : FieldTable φ ρ} {entity field : String} {id value : Int}
    {change : String → (ρ → ρ) → Change} (hle : s.version ≤ version)
    (hnone : ∀ w, s.fieldChange table entity id field value change ≠ .warn w) :
    (s.setVersion version).fieldChange table entity id field value change =
      s.fieldChange table entity id field value change := by
  unfold fieldChange at hnone ⊢
  cases hresolve : s.resolve table entity id field value with
  | error w =>
      rw [hresolve] at hnone
      exact absurd rfl (hnone w)
  | ok f => rw [resolve_setVersion hle hresolve]

theorem miscChange_setVersion {field : String} {id value : Int} (hle : s.version ≤ version)
    (hnone : ∀ w, s.miscChange id field value ≠ .warn w) :
    (s.setVersion version).miscChange id field value = s.miscChange id field value := by
  unfold miscChange at hnone ⊢
  cases hresolve : s.resolve MiscField.table "misc" id field value with
  | error w =>
      rw [hresolve] at hnone
      exact absurd rfl (hnone w)
  | ok f => rw [resolve_setVersion hle hresolve]

/-- An edit that is not turned into a warning comes down to the same changes under a later version. -/
theorem changes_setVersion (hle : s.version ≤ version) (hnone : ∀ w, .warn w ∉ s.changes e) :
    (s.setVersion version).changes e = s.changes e := by
  have hne : ∀ {c : Change}, (∀ w, .warn w ∉ [c]) → ∀ w, c ≠ .warn w := by
    rintro c hc w rfl
    exact hc w (List.mem_singleton_self _)
  cases e with
  | thingField id field value | frameField id field value | weaponField id field value | ammoField id field value
  | soundField id field value => exact congrArg (fun c => [c]) (fieldChange_setVersion hle (hne hnone))
  | miscField id field value => exact congrArg (fun c => [c]) (miscChange_setVersion hle (hne hnone))
  | _ => rfl

/-- An edit that leaves no warning has the same effect under a later version. -/
theorem apply_setVersion (hle : s.version ≤ version) (happly : s.apply e = .ok s')
    (hquiet : s'.warnings = s.warnings) :
    (s.setVersion version).apply e = .ok (s'.setVersion version) := by
  have hcarried := apply_eq_carryAll happly
  rw [hcarried] at hquiet
  obtain ⟨hnone, hrun⟩ := carryAll_setVersion hle hquiet
  have he : ∀ kind, e ≠ .unknown kind := by
    rintro kind rfl
    cases happly
  obtain ⟨s'', happly'⟩ := exists_apply he (s.setVersion version)
  rw [happly', apply_eq_carryAll happly', changes_setVersion hle hnone, hrun, ← hcarried]

theorem version_apply (happly : s.apply e = .ok s') : s'.version = s.version := by
  rw [apply_eq_carryAll happly, version_carryAll]

theorem warnings_prefix_applyAll (s : Session) (edits : List Edit) :
    s.warnings <+: (s.applyAll edits).1.warnings := by
  induction edits generalizing s with
  | nil => exact List.prefix_refl _
  | cons e edits ih =>
      unfold applyAll
      cases happly : s.apply e with
      | error err => exact List.prefix_refl _
      | ok s₁ =>
          have hone : s.warnings <+: s₁.warnings := apply_eq_carryAll happly ▸ warnings_prefix_carryAll _ s
          exact hone.trans (ih s₁)

/-- Edits that leave no warning have the same effect under a later version. -/
theorem applyAll_setVersion {edits : List Edit} (hle : s.version ≤ version)
    (hall : s.applyAll edits = (s', none)) (hquiet : s'.warnings = s.warnings) :
    (s.setVersion version).applyAll edits = (s'.setVersion version, none) := by
  induction edits generalizing s with
  | nil =>
      cases hall
      rfl
  | cons e edits ih =>
      rw [applyAll] at hall
      cases happly : s.apply e with
      | error err =>
          rw [happly] at hall
          cases hall
      | ok s₁ =>
          rw [happly] at hall
          -- No warning is taken back, so there is none after the first edit either.
          have hfirst : s.warnings <+: s₁.warnings := apply_eq_carryAll happly ▸ warnings_prefix_carryAll _ s
          have hrest : s₁.warnings <+: s.warnings := by
            have hgrown := warnings_prefix_applyAll s₁ edits
            rw [show s₁.applyAll edits = (s', none) from hall] at hgrown
            exact hquiet ▸ hgrown
          have hsame : s₁.warnings = s.warnings := hrest.eq_of_length_le hfirst.length_le
          rw [applyAll, apply_setVersion hle happly hsame]
          exact ih (by rwa [version_apply happly]) hall (hquiet.trans hsame.symm)

/-- Raising the version only widens what is accepted.  Edits that run to the end without a warning under a version run
to the end without one under any later version, and lead to a session that differs in the version alone: the overlays,
the global values, the names of sprites and the messages are the same.  Whatever was printed before, all that is
modified is converted to the same lumps, with the same answer. -/
theorem applyAll_raised {v w : Int} (hle : v ≤ w) {edits : List Edit} (hall : (new v).applyAll edits = (s, none))
    (hquiet : s.warnings = []) :
    (new w).applyAll edits = ({ s with version := w }, none) ∧
      ∀ p : Press, p.convertAll { session := { s with version := w } } = p.convertAll { session := s } :=
  ⟨applyAll_setVersion (s := new v) hle hall hquiet, fun _ => rfl⟩

/-- The trooper is made tougher, and the second frame on which it stands goes on with that of a sergeant. -/
theorem applyAll_raised_redirected :
    ∃ s, (21 : Int) ≤ 2021 ∧
      (new 21).applyAll [.thingField 1 "Hit points" 500, .frameField 175 "Next frame" 207] = (s, none) ∧
      s.warnings = [] ∧
      (new 2021).applyAll [.thingField 1 "Hit points" 500, .frameField 175 "Next frame" 207] =
        ({ s with version := 2021 }, none) ∧
      ∀ p : Press, p.convertAll { session := { s with version := 2021 } } = p.convertAll { session := s } := by
  -- The session between the two edits is kept closed: only what is said of it here is evaluated.
  have hbetween : ∃ u, (new 21).apply (.thingField 1 "Hit points" 500) = .ok u ∧ u.warnings = [] ∧
      u.complaints (u.fieldChange FrameField.table "frame" 175 "Next frame" 207 (.frame 175)) = [] :=
    ⟨patched 21 [.thingField 1 "Hit points" 500], rfl, by decide, by decide⟩
  obtain ⟨u, hfirst, hbefore, hlast⟩ := hbetween
  obtain ⟨s, hsecond⟩ := exists_apply (e := .frameField 175 "Next frame" 207) nofun u
  have hall : (new 21).applyAll [.thingField 1 "Hit points" 500, .frameField 175 "Next frame" 207] = (s, none) := by
    rw [applyAll, hfirst]
    dsimp only
    rw [applyAll, hsecond]
    rfl
  have hquiet : s.warnings = [] := by
    rw [apply_eq_carryAll hsecond, changes, carryAll_singleton, warnings_carry, hbefore, hlast]
    rfl
  exact ⟨s, by decide, hall, hquiet, applyAll_raised (by decide) hall hquiet⟩

end Session
end DoomPatch
