import DoomPatch.Definition.Attack
import DoomPatch.Proofs.Baseline.Tables
import DoomPatch.Proofs.Chain.Locality
import DoomPatch.Proofs.Text.Bare

/-!
# Facts about the table of things

What conversions rely on when they define a thing of the tables.

* `references_nonpos` — no thing of the tables names another as its blood or what it drops.
* `attackEntry_of_isAttack` — every projectile of the tables has an entry as an attack, and is no pickup.
* `spawn_ne_zero_of_special` — every pickup is shown.
* `judge_early_of_late` — what counts as a monster by its animations counts as one by its record.
-/

namespace DoomPatch

theorem Thing.first_byte_of_isAttack {t : Thing} (hattack : t.isAttack = true) :
    (Text.bytes t.name).head? = some 42 := by
  obtain ⟨rest, hname⟩ := List.head?_eq_some_iff.1 (beq_iff_eq.1 hattack)
  rw [Text.bytes_eq_flatMap, hname, List.flatMap_cons]
  rfl

/-- A thing without a see role never chases. -/
theorem Monster.chase_eq_false {r : Reel} {t : Thing} (hsee : t.see = 0) : (Monster.conduct r t).chase = false := by
  have hchain : r.chain t.see = [] := Reel.walk_of_stops (Or.inl hsee) _
  have hflags : r.chainFlags t.see = 0 := by
    unfold Reel.chainFlags
    rw [hchain]
    rfl
  unfold Monster.conduct
  rw [hflags]
  exact (by decide : Word.hasAll 0 Behaviour.chase = false)

/-- Knowledge of the animations adds at most the weights of chasing and falling. -/
theorem Monster.score_le (t : Thing) (c : Conduct) :
    Monster.score t (some c) ≤ Monster.score t none + 139 ∧
      (c.chase = false → Monster.score t (some c) ≤ Monster.score t none + 61) := by
  have hsplit : Monster.score t (some c) =
      Monster.score t none + Monster.weigh c.chase 78 + Monster.weigh c.fall 61 := by
    unfold Monster.score
    have hchase : Monster.weigh ((none : Option Conduct).any (·.chase)) 78 = 0 := rfl
    have hfall : Monster.weigh ((none : Option Conduct).any (·.fall)) 61 = 0 := rfl
    rw [hchase, hfall, Option.any_some, Option.any_some]
    omega
  have hchase : Monster.weigh c.chase 78 ≤ 78 := by
    unfold Monster.weigh
    split <;> decide
  have hfall : Monster.weigh c.fall 61 ≤ 61 := by
    unfold Monster.weigh
    split <;> decide
  rw [hsplit]
  refine ⟨by omega, fun hstill => ?_⟩
  have hzero : Monster.weigh c.chase 78 = 0 := by
    rw [hstill]
    rfl
  omega

namespace Baseline

/-- What is checked of every thing of the table, with its number, holds of the thing of a number. -/
theorem forall_things (test : Int → Thing → Bool)
    (hall : ∀ n < numThings, ((thing? (Int.ofNat n)).all (test (Int.ofNat n))) = true) {id : Int} {t : Thing}
    (hbase : thing? id = some t) : test id t = true := by
  have hbounds := bounds_of_at? hbase
  rw [size_things] at hbounds
  have hid := hall id.toNat (by omega)
  rw [Int.ofNat_eq_natCast, Int.toNat_of_nonneg hbounds.1, hbase] at hid
  exact hid

set_option maxRecDepth 4000 in
/-- No thing of the tables names another as its blood or what it drops. -/
theorem references_nonpos {id : Int} {t : Thing} (hbase : thing? id = some t) : t.blood ≤ 0 ∧ t.dropped ≤ 0 := by
  have hall : ∀ t ∈ things.toList, t.blood ≤ 0 ∧ t.dropped ≤ 0 := by decide
  exact hall t (mem_of_at? hbase)

/-- Every projectile of the tables has an entry as an attack, and is no pickup. -/
theorem attackEntry_of_isAttack {id : Int} {t : Thing} (hbase : thing? id = some t) (hattack : t.isAttack = true) :
    (AttackEntry.ofThing? id).isSome ∧ t.has ThingFlag.special = false := by
  -- The star is looked for among the bytes of the name.
  have hid := forall_things
    (fun id t => (Text.bytes t.name).head? != some 42 ||
      ((AttackEntry.ofThing? id).isSome && !t.has ThingFlag.special))
    (by set_option maxRecDepth 4000 in decide) hbase
  simpa [Thing.first_byte_of_isAttack hattack] using hid

set_option maxRecDepth 4000 in
/-- Every pickup of the tables is shown. -/
theorem spawn_ne_zero_of_special {id : Int} {t : Thing} (hbase : thing? id = some t)
    (hspecial : t.has ThingFlag.special = true) : t.spawn ≠ 0 := by
  have hall : ∀ t ∈ things.toList, t.has ThingFlag.special = true → t.spawn ≠ 0 := by decide
  exact hall t (mem_of_at? hbase) hspecial

set_option maxRecDepth 4000 in
/-- A thing of the tables that counts as a monster by its animations counts as one by its record alone. -/
theorem judge_early_of_late {id : Int} {t : Thing} (hbase : thing? id = some t) {r : Reel}
    (hlate : Monster.judge t (some (Monster.conduct r t)) = true) : Monster.judge t none = true := by
  -- Only things that move at a target come near the bar without reaching it.
  have hgap : ∀ t ∈ things.toList, t.see ≠ 0 → 231 ≤ Monster.score t none → 300 ≤ Monster.score t none := by
    decide
  obtain ⟨hscore, hstill⟩ := Monster.score_le t (Monster.conduct r t)
  unfold Monster.judge at hlate ⊢
  by_cases hexcluded : (decide (t.doomedNum ≤ 0) || t.isAttack || t.player != 0) = true
  · rw [if_pos hexcluded] at hlate
    cases hlate
  · rw [if_neg hexcluded] at hlate ⊢
    by_cases hkill : t.has ThingFlag.countKill = true
    · rw [if_pos hkill]
    · rw [if_neg hkill] at hlate ⊢
      by_cases hitem : (t.has ThingFlag.special || t.has ThingFlag.countItem) = true
      · rw [if_pos hitem] at hlate
        cases hlate
      · rw [if_neg hitem] at hlate ⊢
        have hbar : 370 ≤ Monster.score t (some (Monster.conduct r t)) := of_decide_eq_true hlate
        refine decide_eq_true (show 300 ≤ Monster.score t none from ?_)
        by_cases hsee : t.see = 0
        · have hle := hstill (Monster.chase_eq_false hsee)
          omega
        · exact hgap t (mem_of_at? hbase) hsee (by omega)

end Baseline
end DoomPatch
