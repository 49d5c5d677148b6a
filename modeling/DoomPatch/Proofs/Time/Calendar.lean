import DoomPatch.Time.Calendar

/-!
# Dates and their numbers

Every day has a date that exists, and the number of that date is the day.

* `yearStart` — the days of a cycle before a year of it, where years begin in March.
* `bounds_of_cycleYear` — the year of a day in a cycle begins on that day or before, and the next one behind it.
* `number_ofNumber`, `isValid_ofNumber` — the date of a number.
-/

namespace DoomPatch
namespace Date

/-- The days of a cycle before one of its years. -/
def yearStart (y : Int) : Int := 365 * y + y / 4 - y / 100

/-- The days of a cycle up to a day, without the leap days. -/
def ordinary (day : Int) : Int := day - day / 1460 + day / 36524 - day / 146096

/-- The year of a cycle in which a day is. -/
def cycleYear (day : Int) : Int := ordinary day / 365

theorem ordinary_mono {a b : Int} (hle : a ≤ b) : ordinary a ≤ ordinary b := by
  unfold ordinary
  omega

set_option maxRecDepth 4000 in
/-- Without leap days a year has 365 days, so the count of its first and of its last day tells the year. -/
theorem ordinary_of_year {y : Int} (hy : 0 ≤ y ∧ y < 400) :
    365 * y ≤ ordinary (yearStart y) ∧ (0 < y → ordinary (yearStart y - 1) < 365 * y) := by
  have hall : ∀ n : Nat, n < 400 → 365 * (n : Int) ≤ ordinary (yearStart n) ∧
      (0 < (n : Int) → ordinary (yearStart n - 1) < 365 * n) := by
    decide
  have hcast : (y.toNat : Int) = y := Int.toNat_of_nonneg hy.1
  have hyear := hall y.toNat (by omega)
  rwa [hcast] at hyear

theorem cycleYear_lt {day : Int} (hday : 0 ≤ day ∧ day < cycle) : 0 ≤ cycleYear day ∧ cycleYear day < 400 := by
  unfold cycleYear ordinary
  unfold cycle at hday
  omega

/-- The year of a day begins on that day or before, and the next one behind it. -/
theorem bounds_of_cycleYear {day : Int} (hday : 0 ≤ day ∧ day < cycle) :
    yearStart (cycleYear day) ≤ day ∧ (cycleYear day < 399 → day < yearStart (cycleYear day + 1)) := by
  have hyear := cycleYear_lt hday
  have hcount : ordinary day / 365 = cycleYear day := rfl
  constructor
  · by_cases hlate : yearStart (cycleYear day) ≤ day
    · exact hlate
    · have hpos : 0 < cycleYear day := by
        rcases Int.lt_or_eq_of_le hyear.1 with hpos | hzero
        · exact hpos
        · rw [← hzero] at hlate
          simp only [yearStart] at hlate
          omega
      have hlast := (ordinary_of_year hyear).2 hpos
      have hmono : ordinary day ≤ ordinary (yearStart (cycleYear day) - 1) := ordinary_mono (by omega)
      omega
  · intro hlt
    by_cases hearly : day < yearStart (cycleYear day + 1)
    · exact hearly
    · have hfirst := (ordinary_of_year ⟨by omega, by omega⟩ : 365 * (cycleYear day + 1) ≤ _ ∧ _).1
      have hmono : ordinary (yearStart (cycleYear day + 1)) ≤ ordinary day := ordinary_mono (by omega)
      omega

/-- The days of a year that begins in March are counted from 0; only a leap day comes last. -/
theorem dayOfYear_bounds {day : Int} (hday : 0 ≤ day ∧ day < cycle) :
    0 ≤ day - yearStart (cycleYear day) ∧ day - yearStart (cycleYear day) ≤ 365 ∧
      (day - yearStart (cycleYear day) = 365 → isLeap (cycleYear day + 1) = true) := by
  have hyear := cycleYear_lt hday
  obtain ⟨hlow, hhigh⟩ := bounds_of_cycleYear hday
  generalize cycleYear day = y at hyear hlow hhigh
  unfold cycle at hday
  by_cases hlast : y < 399
  · have hnext := hhigh hlast
    simp only [yearStart] at hlow hnext ⊢
    refine ⟨by omega, by omega, fun hleap => ?_⟩
    have hfour : (y + 1) % 4 ≠ 0 → (y + 1) / 4 = y / 4 := by omega
    have hmono : y / 100 ≤ (y + 1) / 100 := by omega
    have hhundred : (y + 1) % 100 = 0 → (y + 1) / 100 = y / 100 + 1 ∧ (y + 1) / 4 = y / 4 + 1 := by omega
    have hdivides : (y + 1) % 4 = 0 ∧ (y + 1) % 100 ≠ 0 := by omega
    simp [isLeap, hdivides]
  · have hy : y = 399 := by omega
    subst hy
    simp only [yearStart] at hlow ⊢
    refine ⟨by omega, by omega, fun _ => by decide⟩

/-- The month of a day of a year, both counted from March. -/
def marchMonth (doy : Int) : Int := (5 * doy + 2) / 153

/-- The date of a day of a year, where the year and its days are counted from March. -/
def ofMarch (year doy : Int) : Date :=
  let month := if marchMonth doy < 10 then marchMonth doy + 3 else marchMonth doy - 9
  ⟨if month ≤ 2 then year + 1 else year, month, doy - (153 * marchMonth doy + 2) / 5 + 1⟩

/-- From March to December the year is that of the calendar, in January and February the one before. -/
theorem ofMarch_eq {year doy : Int} (hdoy : 0 ≤ doy ∧ doy ≤ 365) :
    ofMarch year doy =
      if marchMonth doy < 10 then ⟨year, marchMonth doy + 3, doy - (153 * marchMonth doy + 2) / 5 + 1⟩
      else ⟨year + 1, marchMonth doy - 9, doy - (153 * marchMonth doy + 2) / 5 + 1⟩ := by
  have hmonth : 0 ≤ marchMonth doy ∧ marchMonth doy ≤ 11 := by
    unfold marchMonth
    omega
  unfold ofMarch
  by_cases hten : marchMonth doy < 10
  · simp only [if_pos hten]
    rw [if_neg (by omega)]
  · simp only [if_neg hten]
    rw [if_pos (by omega)]

/-- A number is made of full cycles, full years and days. -/
theorem exists_ofNumber_eq (n : Int) :
    ∃ era y doy, (0 ≤ y ∧ y < 400) ∧ (0 ≤ doy ∧ doy ≤ 365 ∧ (doy = 365 → isLeap (y + 1) = true)) ∧
      n = cycle * era + yearStart y + doy - 719468 ∧ ofNumber n = ofMarch (y + era * 400) doy := by
  have hday : 0 ≤ (n + 719468) % cycle ∧ (n + 719468) % cycle < cycle :=
    ⟨Int.emod_nonneg _ (by decide), Int.emod_lt_of_pos _ (by decide)⟩
  have hsplit := Int.mul_ediv_add_emod (n + 719468) cycle
  refine ⟨(n + 719468) / cycle, _, _, cycleYear_lt hday, dayOfYear_bounds hday, by omega, rfl⟩

theorem number_ofMarch {era y doy : Int} (hy : 0 ≤ y ∧ y < 400) (hdoy : 0 ≤ doy ∧ doy ≤ 365) :
    (ofMarch (y + era * 400) doy).number = cycle * era + yearStart y + doy - 719468 := by
  have hmonth : 0 ≤ marchMonth doy ∧ marchMonth doy ≤ 11 := by
    unfold marchMonth
    omega
  -- A cycle has a whole number of leap years of each kind.
  have hfour : (y + era * 400) / 4 = y / 4 + era * 100 := by omega
  have hhundred : (y + era * 400) / 100 = y / 100 + era * 4 := by omega
  have hcycle : (y + era * 400) / 400 = era := by omega
  rw [ofMarch_eq hdoy]
  unfold yearStart cycle
  generalize marchMonth doy = mp at hmonth
  split
  · next hten =>
    have hmarch : ¬ mp + 3 ≤ 2 := by omega
    simp only [number, if_neg hmarch, hfour, hhundred, hcycle, Int.add_sub_cancel]
    omega
  · next hten =>
    have hmarch : mp - 9 ≤ 2 := by omega
    simp only [number, if_pos hmarch, hfour, hhundred, hcycle, Int.add_sub_cancel, Int.sub_add_cancel]
    omega

/-- The number of the date of a day is the day. -/
theorem number_ofNumber (n : Int) : (ofNumber n).number = n := by
  obtain ⟨era, y, doy, hy, hdoy, hn, hdate⟩ := exists_ofNumber_eq n
  rw [hdate, number_ofMarch hy ⟨hdoy.1, hdoy.2.1⟩, hn]

theorem isLeap_add_cycle (y era : Int) : isLeap (y + era * 400) = isLeap y := by
  have hfour : (y + era * 400) % 4 = y % 4 := by omega
  have hhundred : (y + era * 400) % 100 = y % 100 := by omega
  have hcycle : (y + era * 400) % 400 = y % 400 := by omega
  unfold isLeap
  rw [hfour, hhundred, hcycle]

theorem isValid_ofMarch {year doy : Int} (hdoy : 0 ≤ doy ∧ doy ≤ 365 ∧ (doy = 365 → isLeap (year + 1) = true)) :
    (ofMarch year doy).isValid = true := by
  obtain ⟨hlow, hhigh, hleap⟩ := hdoy
  have hbounds : 153 * marchMonth doy ≤ 5 * doy + 2 ∧ 5 * doy + 2 < 153 * marchMonth doy + 153 := by
    unfold marchMonth
    omega
  rw [ofMarch_eq ⟨hlow, hhigh⟩]
  generalize marchMonth doy = mp at hbounds
  have hmonth : 0 ≤ mp ∧ mp ≤ 11 := by omega
  split
  · next hten =>
    have hmarch : ¬ mp + 3 = 2 := by omega
    simp only [isValid, daysIn, Bool.and_eq_true, decide_eq_true_eq, if_neg hmarch]
    refine ⟨⟨⟨by omega, by omega⟩, by omega⟩, ?_⟩
    split <;> omega
  · next hten =>
    simp only [isValid, daysIn, Bool.and_eq_true, decide_eq_true_eq]
    refine ⟨⟨⟨by omega, by omega⟩, by omega⟩, ?_⟩
    -- January is a long month; February is the last one here, and its last day is a leap day.
    by_cases hfebruary : mp - 9 = 2
    · rw [if_pos hfebruary]
      split
      · omega
      · next hcommon =>
        have hbefore : doy ≠ 365 := fun hlast => hcommon (hleap hlast)
        omega
    · rw [if_neg hfebruary, if_neg (by omega)]
      omega

theorem isValid_ofNumber (n : Int) : (ofNumber n).isValid = true := by
  obtain ⟨era, y, doy, hy, hdoy, hn, hdate⟩ := exists_ofNumber_eq n
  rw [hdate]
  refine isValid_ofMarch ⟨hdoy.1, hdoy.2.1, fun hlast => ?_⟩
  rw [show y + era * 400 + 1 = y + 1 + era * 400 by omega, isLeap_add_cycle]
  exact hdoy.2.2 hlast

end Date
end DoomPatch
