import DoomPatch.Word

/-!
# The range of machine words

* `Word.Fits` — an integer is a signed 64-bit word.
* `wrap64_eq_self_iff`, `fits_wrap64` — exactly the words stay as they are, and nothing else comes out.
* `magnitude_eq_wrap64`, `fits_natAbs_iff` — the magnitude of a word is its absolute value, brought back into range;
  the two differ for the least word only.
-/

namespace DoomPatch
namespace Word

/-- A signed 64-bit word. -/
def Fits (n : Int) : Prop := -9223372036854775808 ≤ n ∧ n ≤ 9223372036854775807

instance (n : Int) : Decidable (Fits n) := inferInstanceAs (Decidable (_ ∧ _))

theorem fits_wrap64 (n : Int) : Fits (wrap64 n) := by
  have hlow := Int.le_bmod (x := n) (m := UInt64.size) (by decide)
  have hhigh := Int.bmod_lt (x := n) (m := UInt64.size) (by decide)
  have hsize : (UInt64.size : Int) = 18446744073709551616 := rfl
  unfold Fits wrap64
  omega

theorem wrap64_of_fits {n : Int} (hn : Fits n) : wrap64 n = n := by
  have hsize : (UInt64.size : Int) = 18446744073709551616 := rfl
  unfold Fits at hn
  unfold wrap64
  rw [Int.bmod_eq_of_le] <;> omega

theorem wrap64_eq_self_iff {n : Int} : wrap64 n = n ↔ Fits n :=
  ⟨fun heq => heq ▸ fits_wrap64 n, wrap64_of_fits⟩

theorem mul_eq_wrap64 (a b : Int) : mul a b = wrap64 (b * a) := by rw [mul, Int.mul_comm]

theorem magnitude_eq_wrap64 {n : Int} (hn : Fits n) : magnitude n = wrap64 n.natAbs := by
  unfold magnitude
  split
  · next hneg =>
    have habs : (n.natAbs : Int) = -n := by omega
    rw [habs]
  · next hnonneg =>
    have habs : (n.natAbs : Int) = n := by omega
    rw [habs, wrap64_of_fits hn]

/-- The absolute value of a word is a word, unless it is the least one. -/
theorem fits_natAbs_iff {n : Int} (hn : Fits n) : Fits n.natAbs ↔ n ≠ -9223372036854775808 := by
  unfold Fits at hn ⊢
  omega

end Word
end DoomPatch
