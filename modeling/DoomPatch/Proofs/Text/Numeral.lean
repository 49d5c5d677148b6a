import DoomPatch.Text.Numeral

/-!
# Reading back numerals

* `readNat?_toDigits` — the digits of a number are read as that number.
* `readFrom_padLeft_render`, `readNat?_render` — so is a numeral of any base, filled up with zeros or not, and
  `padInt_inj` follows.
* `length_render_le` — how many digits a numeral has.
* `isDigit_of_mem_toString`, `mem_renderInt`, `mem_padInt` — the characters of numerals.
-/

namespace DoomPatch
namespace Numeral

/-- A digit character is read as its digit. -/
theorem digitValue?_digitChar {d : Nat} (hd : d < 10) : digitValue? (Nat.digitChar d) = some d := by
  have hcases : ∀ d : Fin 10, digitValue? (Nat.digitChar d.val) = some d.val := by decide
  exact hcases ⟨d, hd⟩

theorem readFrom_append (base acc : Nat) (cs ds : List Char) :
    readFrom base acc (cs ++ ds) = (readFrom base acc cs).bind fun n => readFrom base n ds := by
  induction cs generalizing acc with
  | nil => rfl
  | cons c cs ih =>
      simp only [List.cons_append, readFrom]
      cases digitValue? c with
      | none => rfl
      | some d =>
          by_cases hd : d < base
          · simp only [if_pos hd]
            exact ih _
          · simp only [if_neg hd]
            rfl

/-- Reading one more digit. -/
theorem readFrom_digitChar (acc : Nat) {d : Nat} (hd : d < 10) :
    readFrom 10 acc [Nat.digitChar d] = some (acc * 10 + d) := by
  simp only [readFrom, digitValue?_digitChar hd, if_pos hd]

theorem readFrom_toDigits (n : Nat) : readFrom 10 0 (Nat.toDigits 10 n) = some n := by
  induction n using Nat.strongRecOn with
  | ind n ih =>
      by_cases hlt : n < 10
      · rw [Nat.toDigits_of_lt_base hlt, readFrom_digitChar 0 hlt]
        simp
      · have hle : 10 ≤ n := Nat.le_of_not_lt hlt
        rw [Nat.toDigits_of_base_le (by decide) hle, readFrom_append,
          ih (n / 10) (Nat.div_lt_self (by omega) (by decide)), Option.bind_some,
          readFrom_digitChar _ (Nat.mod_lt n (by decide))]
        congr 1
        omega

/-- The digits of a number are read as that number. -/
theorem readNat?_toDigits (n : Nat) : readNat? 10 (Nat.toDigits 10 n) = some n := by
  unfold readNat?
  rw [if_neg (by simp), readFrom_toDigits]

/-! ### The characters of numerals -/

theorem isDigit_of_mem_repr {n : Nat} {c : Char} (hc : c ∈ n.repr.toList) : c.isDigit = true := by
  rw [Nat.repr_eq_ofList_toDigits, String.toList_ofList] at hc
  exact Nat.isDigit_of_mem_toDigits (by decide) (by decide) hc

theorem isDigit_of_mem_toString {n : Int} {c : Char} (hc : c ∈ (toString n).toList) : c = '-' ∨ c.isDigit = true := by
  rw [Int.toString_eq_repr, Int.repr_eq_if] at hc
  split at hc
  · exact .inr (isDigit_of_mem_repr hc)
  · rw [String.toList_append, List.mem_append] at hc
    rcases hc with hsign | hmem
    · exact .inl (by simpa using hsign)
    · exact .inr (isDigit_of_mem_repr hmem)

theorem lt_of_mem_digits {base : Nat} (hbase : 2 ≤ base) {n d : Nat} (hd : d ∈ digits base n) : d < base := by
  induction n using Nat.strongRecOn with
  | ind n ih =>
      unfold digits at hd
      split at hd
      · next hstop =>
        rw [List.mem_singleton] at hd
        omega
      · next hgo =>
        rcases List.mem_append.1 hd with hd | hd
        · exact ih (n / base) (Nat.div_lt_self (by omega) hbase) hd
        · rw [List.mem_singleton] at hd
          rw [hd]
          exact Nat.mod_lt n (by omega)

theorem mem_render {base : Nat} (hbase : 2 ≤ base) {n : Nat} {c : Char} (hc : c ∈ render base n) :
    ∃ d < base, c = digitChar d := by
  obtain ⟨d, hd, rfl⟩ := List.mem_map.1 hc
  exact ⟨d, lt_of_mem_digits hbase hd, rfl⟩

theorem mem_renderInt {base : Nat} (hbase : 2 ≤ base) {n : Int} {c : Char} (hc : c ∈ renderInt base n) :
    c = '-' ∨ ∃ d < base, c = digitChar d := by
  unfold renderInt at hc
  split at hc
  · rcases List.mem_cons.1 hc with hsign | hmem
    · exact .inl hsign
    · exact .inr (mem_render hbase hmem)
  · exact .inr (mem_render hbase hc)

theorem mem_padLeft {width : Nat} {cs : List Char} {c : Char} (hc : c ∈ padLeft width cs) : c = '0' ∨ c ∈ cs := by
  rcases List.mem_append.1 hc with hzero | hmem
  · exact .inl (List.mem_replicate.1 hzero).2
  · exact .inr hmem

theorem mem_padInt {width : Nat} {n : Int} {c : Char} (hc : c ∈ (padInt width n).toList) :
    c = '-' ∨ ∃ d < 10, c = digitChar d := by
  have hdigits : ∀ {w : Nat}, c ∈ padLeft w (render 10 n.natAbs) → ∃ d < 10, c = digitChar d := by
    intro w hmem
    rcases mem_padLeft hmem with rfl | hmem
    · exact ⟨0, by decide, by decide⟩
    · exact mem_render (by decide) hmem
  unfold padInt at hc
  rw [String.toList_ofList] at hc
  split at hc
  · rcases List.mem_cons.1 hc with hsign | hmem
    · exact .inl hsign
    · exact .inr (hdigits hmem)
  · exact .inr (hdigits hc)

/-! ### Numerals of a fixed width -/

theorem readFrom_render_digit {base : Nat} (hbase : base ≤ 36) (acc : Nat) {d : Nat} (hd : d < base) :
    readFrom base acc [digitChar d] = some (acc * base + d) := by
  have hvalue : ∀ d < 36, digitValue? (digitChar d) = some d := by decide
  simp only [readFrom, hvalue d (by omega), if_pos hd]

theorem readFrom_render {base : Nat} (hlow : 2 ≤ base) (hhigh : base ≤ 36) (n : Nat) :
    readFrom base 0 (render base n) = some n := by
  induction n using Nat.strongRecOn with
  | ind n ih =>
      unfold render digits
      by_cases hlt : n < base
      · rw [dif_pos (.inl hlt), List.map_singleton, readFrom_render_digit hhigh 0 hlt]
        simp
      · rw [dif_neg (by omega), List.map_append, readFrom_append]
        have hhead := ih (n / base) (Nat.div_lt_self (by omega) hlow)
        unfold render at hhead
        rw [hhead, Option.bind_some, List.map_singleton,
          readFrom_render_digit hhigh _ (Nat.mod_lt n (by omega)), Nat.div_add_mod']

/-- Zeros on the left do not count. -/
theorem readFrom_padLeft {base : Nat} (hbase : 0 < base) (width : Nat) (cs : List Char) :
    readFrom base 0 (padLeft width cs) = readFrom base 0 cs := by
  have hzero : digitValue? '0' = some 0 := rfl
  unfold padLeft
  induction width - cs.length with
  | zero => rfl
  | succ k ih =>
      simpa only [List.replicate_succ, List.cons_append, readFrom, hzero, if_pos hbase, Nat.zero_mul] using ih

theorem readFrom_padLeft_render {base : Nat} (hlow : 2 ≤ base) (hhigh : base ≤ 36) (width n : Nat) :
    readFrom base 0 (padLeft width (render base n)) = some n := by
  rw [readFrom_padLeft (by omega), readFrom_render hlow hhigh]

theorem render_ne_nil (base n : Nat) : render base n ≠ [] := by
  unfold render digits
  split <;> simp

theorem readNat?_render {base : Nat} (hlow : 2 ≤ base) (hhigh : base ≤ 36) (n : Nat) :
    readNat? base (render base n) = some n := by
  unfold readNat?
  rw [if_neg (by simpa using render_ne_nil base n), readFrom_render hlow hhigh]

/-- How many numbers have a numeral of the width. -/
def limit (base : Nat) : Nat → Nat
  | 0 => 1
  | width + 1 => base * limit base width

theorem length_render_le {base n k : Nat} (hk : 0 < k) (hn : n < limit base k) :
    (render base n).length ≤ k := by
  induction k generalizing n with
  | zero => omega
  | succ k ih =>
      unfold render digits
      split
      · simp
      · next hgo =>
        -- A number that is not a single digit has a second place, so the width is more than one.
        have hkpos : 0 < k := by
          rcases Nat.eq_zero_or_pos k with rfl | hpos
          · rw [Nat.zero_add, limit, limit] at hn
            omega
          · exact hpos
        have hrest : n / base < limit base k := Nat.div_lt_of_lt_mul hn
        have hlength := ih hkpos hrest
        unfold render at hlength
        rw [List.length_map] at hlength
        simp only [List.map_append, List.length_append, List.length_map, List.length_singleton]
        omega

theorem length_padLeft {width : Nat} {cs : List Char} (hle : cs.length ≤ width) :
    (padLeft width cs).length = width := by
  unfold padLeft
  rw [List.length_append, List.length_replicate]
  omega

theorem isDigit_digitChar {d : Nat} (hd : d < 10) : (digitChar d).isDigit = true := by
  have hall : ∀ d < 10, (digitChar d).isDigit = true := by decide
  exact hall d hd

theorem isDigit_of_mem_padLeft_render {width n : Nat} {c : Char} (hc : c ∈ padLeft width (render 10 n)) :
    c.isDigit = true := by
  rcases mem_padLeft hc with rfl | hmem
  · rfl
  · obtain ⟨d, hd, rfl⟩ := mem_render (by decide) hmem
    exact isDigit_digitChar hd

/-- Numerals of one width tell numbers apart. -/
theorem padInt_inj {width : Nat} {n m : Int} (hn : 0 ≤ n) (hm : 0 ≤ m) (heq : padInt width n = padInt width m) :
    n = m := by
  unfold padInt at heq
  rw [if_neg (by omega), if_neg (by omega), String.ofList_inj] at heq
  have hread := congrArg (readFrom 10 0) heq
  rw [readFrom_padLeft_render (by decide) (by decide), readFrom_padLeft_render (by decide) (by decide),
    Option.some.injEq] at hread
  omega

end Numeral
end DoomPatch
