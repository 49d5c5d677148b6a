import DoomPatch.Proofs.Text.Numeral
import DoomPatch.Proofs.Time.Calendar
import DoomPatch.Time.Stamp

/-!
# Reading back time stamps

The written form of an instant in universal time is read as that instant, if its year has no more than four digits.

* `digits?_padInt` — a numeral of a fixed width is read back, whatever follows it.
* `readDate?_dateText`, `readClock?_clockText` — so are the date and the time of day, with the fraction.
* `Recordable` — the stamps of which the written form can be read.
* `read?_text` — such a stamp is read back.
-/

namespace DoomPatch
namespace Stamp

variable {s : Stamp}

/-- The written form of the stamp can be read: the fraction is below a second, and the year has four digits. -/
structure Recordable (s : Stamp) : Prop where
  nanos_lt : s.nanos < 1000000000
  year_nonneg : 0 ≤ s.utc.date.year
  year_le : s.utc.date.year ≤ 9999

/-! ### Numerals of a fixed width -/

theorem toList_padInt {width : Nat} {n : Int} (hn : 0 ≤ n) :
    (Numeral.padInt width n).toList = Numeral.padLeft width (Numeral.render 10 n.natAbs) := by
  unfold Numeral.padInt
  rw [String.toList_ofList, if_neg (by omega)]

theorem length_padInt {width : Nat} {n : Int} (hwidth : 0 < width) (hn : 0 ≤ n) (hlt : n < Numeral.limit 10 width) :
    (Numeral.padInt width n).toList.length = width := by
  have hnat : n.natAbs < Numeral.limit 10 width := by
    have hcast : (n.natAbs : Int) = n := Int.natAbs_of_nonneg hn
    omega
  rw [toList_padInt hn, Numeral.length_padLeft (Numeral.length_render_le hwidth hnat)]

/-- A numeral of a fixed width is read back, whatever follows it. -/
theorem digits?_padInt {width : Nat} {n : Int} (hwidth : 0 < width) (hn : 0 ≤ n) (hlt : n < Numeral.limit 10 width)
    (rest : List Char) : digits? width ((Numeral.padInt width n).toList ++ rest) = some (n, rest) := by
  have hlength := length_padInt hwidth hn hlt
  have hne : (Numeral.padInt width n).toList ≠ [] := List.ne_nil_of_length_pos (by omega)
  have hread : Numeral.readNat? 10 (Numeral.padInt width n).toList = some n.natAbs := by
    unfold Numeral.readNat?
    rw [if_neg (by simpa using hne), toList_padInt hn, Numeral.readFrom_padLeft_render (by decide) (by decide)]
  unfold digits?
  rw [List.take_left' hlength, List.drop_left' hlength, if_pos hlength, hread]
  simp [Int.natAbs_of_nonneg hn]

@[simp] theorem skip?_cons (c : Char) (cs : List Char) : skip? c (c :: cs) = some cs := by simp [skip?]

theorem isDigit_of_mem_padInt {width : Nat} {n : Int} (hn : 0 ≤ n) {c : Char}
    (hc : c ∈ (Numeral.padInt width n).toList) :
    c.isDigit = true := by
  rw [toList_padInt hn] at hc
  exact Numeral.isDigit_of_mem_padLeft_render hc

/-! ### Dates and times of day -/

/-- The month and the day of the date are those of a calendar. -/
theorem date_bounds (s : Stamp) : (1 ≤ s.date.month ∧ s.date.month ≤ 12) ∧ 1 ≤ s.date.day ∧ s.date.day ≤ 31 := by
  have hvalid : s.date.isValid = true := Date.isValid_ofNumber _
  have hdays : Date.daysIn s.date.year s.date.month ≤ 31 := by
    unfold Date.daysIn
    split
    · split <;> decide
    · split <;> decide
  simp only [Date.isValid, Bool.and_eq_true, decide_eq_true_eq] at hvalid
  omega

theorem toList_dateText (hyear : 0 ≤ s.date.year) :
    s.dateText.toList = (Numeral.padInt 4 s.date.year).toList ++
      '-' :: ((Numeral.padInt 2 s.date.month).toList ++ '-' :: (Numeral.padInt 2 s.date.day).toList) := by
  unfold dateText yearText
  rw [if_neg (by omega), Int.natAbs_of_nonneg hyear]
  simp

theorem readDate?_dateText (hyear : 0 ≤ s.date.year ∧ s.date.year ≤ 9999) (rest : List Char) :
    readDate? (s.dateText.toList ++ rest) = some (s.date, rest) := by
  have hvalid : s.date.isValid = true := Date.isValid_ofNumber _
  have hparts := s.date_bounds
  rw [toList_dateText hyear.1, List.append_assoc, List.cons_append, List.append_assoc, List.cons_append]
  unfold readDate?
  rw [digits?_padInt (by decide) hyear.1 (by simp only [Numeral.limit]; omega)]
  simp only [Option.bind_eq_bind, Option.bind_some, skip?_cons]
  rw [digits?_padInt (by decide) (by omega) (by simp only [Numeral.limit]; omega)]
  simp only [Option.bind_some, skip?_cons]
  rw [digits?_padInt (by decide) (by omega) (by simp only [Numeral.limit]; omega)]
  simp only [Option.bind_some]
  rw [if_pos hvalid]

theorem isDigit_of_mem_dateText {c : Char} (hc : c ∈ s.dateText.toList) : c.isDigit = true ∨ c = '-' := by
  have hparts := s.date_bounds
  unfold dateText yearText at hc
  simp only [String.toList_append, List.mem_append] at hc
  rcases hc with ((((hc | hc) | hc) | hc) | hc) | hc
  · split at hc
    · exact .inr (by simpa using hc)
    · simp at hc
  · exact .inl (isDigit_of_mem_padInt (by omega) hc)
  · exact .inr (by simpa using hc)
  · exact .inl (isDigit_of_mem_padInt (by omega) hc)
  · exact .inr (by simpa using hc)
  · exact .inl (isDigit_of_mem_padInt (by omega) hc)

theorem dateText_ne_nil (s : Stamp) : s.dateText.toList ≠ [] := by
  unfold dateText
  simp

/-- Zeros that were left out behind are filled in again. -/
theorem dropZeros_append (l : List Char) :
    (l.reverse.dropWhile (· == '0')).reverse
      ++ List.replicate (l.length - (l.reverse.dropWhile (· == '0')).reverse.length) '0' = l := by
  have hsplit : l = (l.reverse.dropWhile (· == '0')).reverse ++ (l.reverse.takeWhile (· == '0')).reverse := by
    rw [← List.reverse_append, List.takeWhile_append_dropWhile, List.reverse_reverse]
  have hzeros : (l.reverse.takeWhile (· == '0')).reverse
      = List.replicate (l.reverse.takeWhile (· == '0')).reverse.length '0' := by
    apply List.eq_replicate_iff.2 ⟨rfl, fun c hc => ?_⟩
    exact beq_iff_eq.1 (List.all_eq_true.1 List.all_takeWhile c (List.mem_reverse.1 hc))
  have hlength := congrArg List.length hsplit
  rw [List.length_append] at hlength
  conv => rhs; rw [hsplit, hzeros]
  rw [show l.length - (l.reverse.dropWhile (· == '0')).reverse.length
    = (l.reverse.takeWhile (· == '0')).reverse.length by omega]

theorem takeWhile_of_all {p : Char → Bool} {cs : List Char} {c : Char} (hall : ∀ d ∈ cs, p d = true)
    (hc : p c = false) (rest : List Char) :
    (cs ++ c :: rest).takeWhile p = cs ∧ (cs ++ c :: rest).dropWhile p = c :: rest := by
  rw [List.takeWhile_append_of_pos hall, List.dropWhile_append_of_pos hall, List.takeWhile_cons_of_neg (by simp [hc]),
    List.dropWhile_cons_of_neg (by simp [hc]), List.append_nil]
  exact ⟨rfl, rfl⟩

/-- What is left of the digits of the fraction without the zeros behind. -/
theorem isDigit_of_mem_kept {width n : Nat} {c : Char}
    (hc : c ∈ ((Numeral.padLeft width (Numeral.render 10 n)).reverse.dropWhile (· == '0')).reverse) :
    c.isDigit = true :=
  Numeral.isDigit_of_mem_padLeft_render
    (List.mem_reverse.1 ((List.dropWhile_sublist _).subset (List.mem_reverse.1 hc)))

theorem isDigit_of_mem_fractionText {c : Char} (hc : c ∈ s.fractionText.toList) : c.isDigit = true ∨ c = '.' := by
  unfold fractionText at hc
  dsimp only at hc
  split at hc
  · cases hc
  · rw [String.toList_ofList] at hc
    rcases List.mem_cons.1 hc with rfl | hc
    · exact .inr rfl
    · exact .inl (isDigit_of_mem_kept hc)

/-- The fraction is read back, if a letter follows. -/
theorem readFraction?_fractionText (hnanos : s.nanos < 1000000000) :
    readFraction? (s.fractionText.toList ++ ['Z']) = some (s.nanos, ['Z']) := by
  have hlength : (Numeral.padLeft 9 (Numeral.render 10 s.nanos)).length = 9 :=
    Numeral.length_padLeft (Numeral.length_render_le (by decide) (by simp only [Numeral.limit]; omega))
  have hfill := dropZeros_append (Numeral.padLeft 9 (Numeral.render 10 s.nanos))
  have hread := Numeral.readFrom_padLeft_render (by decide : 2 ≤ 10) (by decide) 9 s.nanos
  have hdigits : ∀ c ∈ ((Numeral.padLeft 9 (Numeral.render 10 s.nanos)).reverse.dropWhile (· == '0')).reverse,
      c.isDigit = true := fun c hc => isDigit_of_mem_kept hc
  rw [hlength] at hfill
  unfold fractionText
  dsimp only
  generalize ((Numeral.padLeft 9 (Numeral.render 10 s.nanos)).reverse.dropWhile (· == '0')).reverse = kept
    at hfill hdigits
  rw [← hfill] at hread hlength
  rw [List.length_append, List.length_replicate] at hlength
  split
  · next hempty =>
    rw [List.isEmpty_iff.1 hempty] at hread
    have hzero : s.nanos = 0 := Option.some.inj (hread.symm.trans (by decide))
    rw [hzero]
    rfl
  · next hsome =>
    obtain ⟨htake, hdrop⟩ := takeWhile_of_all hdigits (by decide : 'Z'.isDigit = false) []
    have hne : kept ≠ [] := by simpa using hsome
    have hnine : kept.take 9 = kept := List.take_of_length_le (by omega)
    have hnumber : Numeral.readNat? 10 (kept ++ List.replicate (9 - kept.length) '0') = some s.nanos := by
      unfold Numeral.readNat?
      rw [if_neg (by simp [hne]), hread]
    rw [String.toList_ofList, List.cons_append]
    unfold readFraction?
    simp only [htake, hdrop, hnine, hnumber]
    rw [if_pos ⟨.inl trivial, by simpa using hne⟩]
    rfl

theorem clock_bounds (s : Stamp) :
    (0 ≤ s.clock.1 ∧ s.clock.1 < 24) ∧ (0 ≤ s.clock.2.1 ∧ s.clock.2.1 < 60) ∧ 0 ≤ s.clock.2.2 ∧ s.clock.2.2 < 60 := by
  unfold clock
  dsimp only
  omega

theorem toList_clockText (s : Stamp) :
    s.clockText.toList = (Numeral.padInt 2 s.clock.1).toList ++
      ':' :: ((Numeral.padInt 2 s.clock.2.1).toList ++ ':' :: (Numeral.padInt 2 s.clock.2.2).toList) := by
  simp [clockText]

theorem digits?_clockText (s : Stamp) (rest : List Char) : (digits? 2 (s.clockText.toList ++ rest)).isSome := by
  have hparts := s.clock_bounds
  rw [toList_clockText, List.append_assoc, digits?_padInt (by decide) hparts.1.1 (by simp only [Numeral.limit]; omega)]
  rfl

/-- The time of day is read back as the seconds of the day, together with the fraction. -/
theorem readClock?_clockText (hnanos : s.nanos < 1000000000) :
    readClock? (s.clockText.toList ++ (s.fractionText.toList ++ ['Z'])) =
      some (s.localSeconds % 86400, s.nanos, ['Z']) := by
  have hparts := s.clock_bounds
  have hsum : s.clock.1 * 3600 + s.clock.2.1 * 60 + s.clock.2.2 = s.localSeconds % 86400 := by
    unfold clock
    dsimp only
    omega
  rw [toList_clockText, List.append_assoc, List.cons_append, List.append_assoc, List.cons_append]
  unfold readClock? readHour?
  rw [digits?_padInt (by decide) (by omega) (by simp only [Numeral.limit]; omega), Option.orElse_some]
  simp only [Option.bind_eq_bind, Option.bind_some, skip?_cons]
  rw [digits?_padInt (by decide) (by omega) (by simp only [Numeral.limit]; omega)]
  simp only [Option.bind_some, skip?_cons]
  rw [digits?_padInt (by decide) (by omega) (by simp only [Numeral.limit]; omega)]
  simp only [Option.bind_some, readFraction?_fractionText hnanos]
  rw [if_pos ⟨hparts.1.2, hparts.2.1.2, hparts.2.2.2⟩, hsum]

theorem isDigit_of_mem_clockText {c : Char} (hc : c ∈ s.clockText.toList) : c.isDigit = true ∨ c = ':' := by
  have hparts := s.clock_bounds
  rw [toList_clockText, List.mem_append, List.mem_cons, List.mem_append, List.mem_cons] at hc
  rcases hc with hc | rfl | hc | rfl | hc
  · exact .inl (isDigit_of_mem_padInt (by omega) hc)
  · exact .inr rfl
  · exact .inl (isDigit_of_mem_padInt (by omega) hc)
  · exact .inr rfl
  · exact .inl (isDigit_of_mem_padInt (by omega) hc)

/-- The date and the time of day make up the instant. -/
theorem ofParts_date (hoffset : s.offset = 0) : ofParts s.date (s.localSeconds % 86400) s.nanos 0 = s := by
  have hnumber : s.date.number = s.localSeconds / 86400 := Date.number_ofNumber _
  have hseconds : s.localSeconds = s.seconds := by
    unfold localSeconds
    rw [hoffset]
    omega
  unfold ofParts
  rw [hnumber, hseconds]
  have hsum : s.seconds / 86400 * 86400 + s.seconds % 86400 - 0 * 60 = s.seconds := by omega
  rw [hsum, ← hoffset]

theorem toList_text (hoffset : s.offset = 0) :
    s.text.toList = s.dateText.toList ++ 'T' :: (s.clockText.toList ++ (s.fractionText.toList ++ ['Z'])) := by
  unfold text
  rw [if_pos hoffset]
  simp

/-- The written form of an instant in universal time is read as that instant. -/
theorem read?_text (hs : s.Recordable) : read? s.utc.text = some s.utc := by
  unfold read?
  rw [toList_text rfl, readDate?_dateText ⟨hs.year_nonneg, hs.year_le⟩]
  simp only [Option.bind_eq_bind, Option.bind_some, skip?_cons]
  rw [readClock?_clockText (s := s.utc) hs.nanos_lt]
  simp only [Option.bind_some, readOffset?]
  rw [ofParts_date rfl]
  rfl

end Stamp
end DoomPatch
