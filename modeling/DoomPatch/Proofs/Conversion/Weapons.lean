import DoomPatch.Proofs.Conversion.Unmodified
import DoomPatch.Proofs.Session.Records

/-!
# Unmodified weapons

A weapon that no edit marked is defined as in the unpatched game, so a conversion that writes modified weapons
only leaves none out.

* `ofWeapon_eq_new` — the definition of an unmodified weapon is that of the unpatched game.
* `convertWeapon_unmodified` — converting it writes the same, after any edits.
-/

namespace DoomPatch
namespace Session

/-- A weapon that is not modified has the definition of the unpatched game. -/
theorem ofWeapon_eq_new {s : Session} (hs : Reachable s) (version : Int) {id : Int}
    (hid : s.weapons.get? id = none) :
    Draft.ofWeapon { session := s } id = Draft.ofWeapon { session := new version } id := by
  have hweapon : s.weapon? id = Baseline.weapon? id := weapon?_of_get?_eq_none hid
  have hnew : (new version).weapon? id = Baseline.weapon? id := rfl
  unfold Draft.ofWeapon
  dsimp only
  rw [hweapon, hnew]
  cases hbase : Baseline.weapon? id with
  | none => rfl
  | some w =>
      have halike := s.alike_new version
      have hstarts : ∀ role ∈ Role.ofWeapon, s.Within (w.start role) := by
        intro role hrole
        exact (hs.clean.weapons id hid _ ⟨w, hbase, role, hrole, rfl⟩).within
      have hammo : View.ammoName { session := s } w.ammo = View.ammoName { session := new version } w.ammo := by
        unfold View.ammoName
        rw [hs.ammo_name w.ammo]
        rfl
      dsimp only
      rw [WeaponDefinition.storyboard_eq halike hstarts, WeaponDefinition.block_eq halike hstarts hammo]

end Session

/-- Whatever edits were applied, converting a weapon that is not modified succeeds, and it writes what it
writes for the unpatched game: the same lumps, with the same attack names used and the same warnings. -/
theorem convertWeapon_unmodified (version : Int) (edits : List Edit) (p : Press) {id : Int}
    (hid : 0 ≤ id ∧ id ≤ 8)
    (hclean : (Session.patched version edits).weapons.contains id = false) :
    ∃ q, p.convertWeapon { session := Session.patched version edits } id = .ok q ∧
      p.convertWeapon { session := Session.new version } id = .ok q := by
  have hs := Session.reachable_patched version edits
  have hnone : (Session.patched version edits).weapons.get? id = none := by
    simpa [SortedMap.contains] using hclean
  have hexists : ∃ w, Baseline.weapon? id = some w := by
    refine Baseline.exists_of_bounds hid.1 ?_
    rw [Baseline.size_weapons]
    simp only [Baseline.numWeapons]
    omega
  obtain ⟨w, hbase⟩ := hexists
  have hw : (Session.new version).weapon? id = some w := hbase
  unfold Press.convertWeapon
  rw [Session.ofWeapon_eq_new hs version hnone]
  unfold Draft.ofWeapon
  dsimp only
  rw [hw]
  exact ⟨_, rfl, rfl⟩

/-- The chaingun, after the ammunition it uses, another weapon and the player were changed. -/
theorem convertWeapon_unmodified_chaingun :
    ∃ edits : List Edit,
      edits = [.ammoField 0 "Max ammo" 300, .weaponField 1 "Ammo type" 1, .miscField 0 "Initial Health" 50] ∧
      (Session.patched 21 edits).weapons.contains 1 = true ∧
      (Session.patched 21 edits).weapons.contains 3 = false ∧
      ∃ q, Press.convertWeapon {} { session := Session.patched 21 edits } 3 = .ok q ∧
        Press.convertWeapon {} { session := Session.new 21 } 3 = .ok q := by
  refine ⟨_, rfl, by decide, by decide, ?_⟩
  exact convertWeapon_unmodified 21 _ {} (by decide) (by decide)

end DoomPatch
