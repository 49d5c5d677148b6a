import DoomPatch.Proofs.Flag.Listing

/-!
# Numbers in flag expressions

A flag expression may give bits as a number, in decimal or behind `0x` in hexadecimal.  Both forms of a number below
`2 ^ 32` add the same bits.  Beyond that they part: a hexadecimal numeral is no number any more, whereas a decimal one
still is, up to the largest signed 64-bit word, and its low 32 bits are added.

* `Numeral.IsNumeral` — the ways to write a number in a base, and `Numeral.readNat?_of_isNumeral` — they are all read.
* `FlagExpression.readNumber?_decimal`, `FlagExpression.readNumber?_hex` — the numbers of the two forms.
* `FlagExpression.Adds`, `FlagExpression.Reported` — what a token does wherever it stands.
* `FlagExpression.alike_numerals_iff` — the numbers whose two forms do the same.
-/

namespace DoomPatch

/-! ### Numerals -/

namespace Numeral

/-- Characters that write a number in a base: its digits in either case, behind any number of zeros. -/
def IsNumeral (base n : Nat) (cs : List Char) : Prop :=
  ∃ zeros, cs.map Char.toLower = List.replicate zeros '0' ++ render base n

/-- Only letters of ASCII have another case. -/
theorem toLower_of_beyond {c : Char} (hbeyond : 128 ≤ c.toNat) : c.toLower = c := by
  unfold Char.toLower
  rw [dif_neg]
  rintro ⟨-, hhigh⟩
  have hbound : c.val.toNat ≤ 90 := UInt32.le_iff_toNat_le.1 hhigh
  change 128 ≤ c.val.toNat at hbeyond
  omega

/-- A property of characters that is not changed by the case of letters can be checked on ASCII. -/
theorem eq_of_toLower {α : Type} {f : Char → α} (hascii : ∀ n < 128, f (Char.ofNat n).toLower = f (Char.ofNat n))
    (c : Char) : f c.toLower = f c := by
  by_cases hc : c.toNat < 128
  · have hchar := hascii c.toNat hc
    rwa [Char.ofNat_toNat] at hchar
  · rw [toLower_of_beyond (by omega)]

theorem digitValue?_toLower (c : Char) : digitValue? c.toLower = digitValue? c := eq_of_toLower (by decide) c

theorem isDigit_toLower (c : Char) : c.toLower.isDigit = c.isDigit := eq_of_toLower (by decide) c

theorem readFrom_toLower (base acc : Nat) (cs : List Char) :
    readFrom base acc (cs.map Char.toLower) = readFrom base acc cs := by
  induction cs generalizing acc with
  | nil => rfl
  | cons c cs ih => simp only [List.map_cons, readFrom, digitValue?_toLower, ih]

theorem readFrom_zeros {base : Nat} (hbase : 0 < base) (zeros : Nat) (cs : List Char) :
    readFrom base 0 (List.replicate zeros '0' ++ cs) = readFrom base 0 cs := by
  have hpad := readFrom_padLeft hbase (zeros + cs.length) cs
  rwa [padLeft, Nat.add_sub_cancel] at hpad

variable {base n : Nat} {cs : List Char}

theorem IsNumeral.ne_nil (hcs : IsNumeral base n cs) : cs ≠ [] := by
  obtain ⟨zeros, hlower⟩ := hcs
  rintro rfl
  exact render_ne_nil base n (List.append_eq_nil_iff.1 hlower.symm).2

/-- However a number is written, it is read. -/
theorem readNat?_of_isNumeral (hlow : 2 ≤ base) (hhigh : base ≤ 36) (hcs : IsNumeral base n cs) :
    readNat? base cs = some n := by
  have hne := hcs.ne_nil
  obtain ⟨zeros, hlower⟩ := hcs
  unfold readNat?
  rw [if_neg (by simpa using hne), ← readFrom_toLower, hlower, readFrom_zeros (by omega), readFrom_render hlow hhigh]

/-- A decimal numeral consists of digits. -/
theorem IsNumeral.isDigit (hcs : IsNumeral 10 n cs) {c : Char} (hc : c ∈ cs) : c.isDigit = true := by
  obtain ⟨zeros, hlower⟩ := hcs
  have hmem : c.toLower ∈ List.replicate zeros '0' ++ render 10 n := hlower ▸ List.mem_map_of_mem hc
  rw [← isDigit_toLower]
  rcases List.mem_append.1 hmem with hzero | hdigit
  · rw [(List.mem_replicate.1 hzero).2]
    rfl
  · obtain ⟨d, hd, hchar⟩ := mem_render (by decide) hdigit
    rw [hchar]
    exact isDigit_digitChar hd

/-- A decimal numeral without a sign is a number as long as it is a signed 64-bit word. -/
theorem readSigned?_of_isNumeral (hcs : IsNumeral 10 n cs) :
    readSigned? cs = if n < 0x8000000000000000 then some (n : Int) else none := by
  have hsign : splitSign cs = (false, cs) := by
    cases cs with
    | nil => rfl
    | cons c rest =>
        have hdigit := hcs.isDigit List.mem_cons_self
        unfold splitSign
        split
        · next heq =>
          cases heq
          cases hdigit
        · next heq =>
          cases heq
          cases hdigit
        · rfl
  have hfits : fits64 (n : Int) = decide (n < 0x8000000000000000) := by
    have hmin : Int64.minValue.toInt = -0x8000000000000000 := by decide
    have hmax : Int64.maxValue.toInt = 0x7FFFFFFFFFFFFFFF := by decide
    rw [fits64, hmin, hmax, Bool.eq_iff_iff, Bool.and_eq_true, decide_eq_true_eq, decide_eq_true_eq, decide_eq_true_eq]
    omega
  unfold readSigned?
  rw [hsign]
  simp only [readNat?_of_isNumeral (by decide) (by decide) hcs, Bool.false_eq_true, if_false, hfits, decide_eq_true_eq]

end Numeral

namespace FlagExpression

open Numeral

variable {n : Nat} {token digits : List Char}

/-- The decimal form of a number counts up to the largest signed 64-bit word, with its low 32 bits. -/
theorem readNumber?_decimal (htoken : IsNumeral 10 n token) :
    readNumber? token = if n < 0x8000000000000000 then some (UInt32.ofNat n) else none := by
  have hread : readNumber? token = (readSigned? token).map Word.low32 := by
    unfold readNumber?
    split
    · next x d rest =>
      have hdigit : x.isDigit = true := htoken.isDigit (by simp)
      rw [if_neg]
      rintro (rfl | rfl) <;> cases hdigit
    · rw [if_pos (.inr (htoken.isDigit List.mem_cons_self))]
    · exact absurd rfl htoken.ne_nil
  have hlow : Word.low32 (n : Int) = UInt32.ofNat n := by
    apply UInt32.toNat_inj.1
    have hword : (Word.low32 (n : Int)).toNat = ((n : Int) % 4294967296).toNat % 4294967296 := rfl
    have hbits : (UInt32.ofNat n).toNat = n % 4294967296 := rfl
    omega
  rw [hread, readSigned?_of_isNumeral htoken]
  split
  · rw [Option.map_some, hlow]
  · rfl

/-- The hexadecimal form of a number counts if the number has 32 bits. -/
theorem readNumber?_hex {x : Char} (hx : x = 'x' ∨ x = 'X') (hdigits : IsNumeral 16 n digits) :
    readNumber? ('0' :: x :: digits) = if n < 0x100000000 then some (UInt32.ofNat n) else none := by
  cases digits with
  | nil => exact absurd rfl hdigits.ne_nil
  | cons d rest =>
      unfold readNumber?
      simp only [if_pos hx, readNat?_of_isNumeral (by decide) (by decide) hdigits]

/-! ### What a token does in an expression -/

/-- Wherever a token stands in an expression, it adds bits to those of the other tokens and is not reported. -/
def Adds (v : Vocabulary) (token : List Char) (bits : UInt32) : Prop :=
  ∀ (expr : String) (ts us : List (List Char)), tokens expr.toList = ts ++ token :: us →
    parse v expr = ((combine v ts).1 ||| bits ||| (combine v us).1,
      ((combine v ts).2 ++ (combine v us).2).map String.ofList)

/-- Wherever a token stands in an expression, it adds nothing and is reported in its place. -/
def Reported (v : Vocabulary) (token : List Char) : Prop :=
  ∀ (expr : String) (ts us : List (List Char)), tokens expr.toList = ts ++ token :: us →
    parse v expr = ((combine v ts).1 ||| (combine v us).1,
      ((combine v ts).2 ++ token :: (combine v us).2).map String.ofList)

/-- Two tokens do the same: they add the same bits, or both are reported. -/
def Alike (v : Vocabulary) (token token' : List Char) : Prop :=
  (∃ bits, Adds v token bits ∧ Adds v token' bits) ∨ (Reported v token ∧ Reported v token')

theorem adds_of_meaning? {v : Vocabulary} {bits : UInt32} (hmeaning : meaning? v token = some bits) :
    Adds v token bits := by
  intro expr ts us htokens
  rw [parse_eq, htokens, combine_append, combine, hmeaning]
  simp [UInt32.or_assoc]

theorem reported_of_meaning? {v : Vocabulary} (hmeaning : meaning? v token = none) : Reported v token := by
  intro expr ts us htokens
  rw [parse_eq, htokens, combine_append, combine, hmeaning]

/-- A token that can stand alone cannot both add bits and be reported. -/
theorem not_reported_of_adds {v : Vocabulary} {bits : UInt32} (hsolid : Solid token) (hadds : Adds v token bits) :
    ¬ Reported v token := by
  have halone : tokens (String.ofList token).toList = [] ++ token :: [] := by
    have hlists : Lists [token] ([] ++ token ++ []) := .cons (by simp [Gap]) hsolid (.nil (by simp [Gap])) (by simp)
    rw [String.toList_ofList]
    simpa using tokens_of_lists hlists
  intro hreported
  have hboth := (hadds _ _ _ halone).symm.trans (hreported _ _ _ halone)
  simp [combine] at hboth

end FlagExpression

/-! ### Numbers -/

namespace Vocabulary

/-- No name starts with a digit. -/
def Lettered (v : Vocabulary) : Prop := ∀ m ∈ v.entries, ∀ c ∈ m.name.toList.head?, c.isDigit = false

theorem lettered_of_mem_standard {v : Vocabulary} (hv : v ∈ standard) : v.Lettered := by
  intro m hm c hc
  have hreadable := readable_of_mem_standard hv
  have hletter := hreadable.letter m hm
  rw [← hreadable.toList_name hm, Option.mem_def.1 hc, Option.all_some, Bool.and_eq_true, Bool.not_eq_true'] at hletter
  exact hletter.2

/-- A token that starts with a digit is no name. -/
theorem Lettered.lookup?_eq_none {v : Vocabulary} (hv : v.Lettered) {c : Char} (hc : c.isDigit = true)
    (rest : List Char) : v.lookup? (c :: rest) = none := by
  have hM : c ≠ 'M' := by
    rintro rfl
    cases hc
  have hkey : dropOpening ((c :: rest).map Text.upperChar) = c :: rest.map Text.upperChar := by
    rw [List.map_cons, FlagExpression.upperChar_of_isDigit (.inr hc), FlagExpression.dropOpening_cons hM]
  unfold lookup?
  rw [hkey, Option.map_eq_none_iff, List.find?_eq_none]
  intro m hm heq
  have hname : m.name.toList = c :: rest.map Text.upperChar := eq_of_beq heq
  rw [hv m hm c (by simp [hname])] at hc
  cases hc

end Vocabulary

namespace FlagExpression

open Numeral

variable {v : Vocabulary} {n : Nat} {decimal digits : List Char} {x : Char}

/-- No character of a numeral is a separator. -/
theorem not_separator_of_isNumeral {base : Nat} {cs : List Char} (hlow : 2 ≤ base) (hhigh : base ≤ 36)
    (hcs : IsNumeral base n cs) {c : Char} (hc : c ∈ cs) : c ∉ separators := by
  have hvalue : ∀ d < 36, digitValue? (digitChar d) ≠ none := by decide
  have hseparators : ∀ c ∈ separators, digitValue? c = none := by simp [separators, digitValue?]
  obtain ⟨zeros, hlower⟩ := hcs
  have hmem : c.toLower ∈ List.replicate zeros '0' ++ render base n := hlower ▸ List.mem_map_of_mem hc
  intro hsep
  have hnone := hseparators c hsep
  rw [← digitValue?_toLower] at hnone
  rcases List.mem_append.1 hmem with hzero | hdigit
  · rw [(List.mem_replicate.1 hzero).2] at hnone
    cases hnone
  · obtain ⟨d, hd, hchar⟩ := mem_render hlow hdigit
    rw [hchar] at hnone
    exact hvalue d (by omega) hnone

theorem solid_decimal (hdecimal : IsNumeral 10 n decimal) : Solid decimal :=
  ⟨hdecimal.ne_nil, fun _ hc => not_separator_of_isNumeral (by decide) (by decide) hdecimal hc⟩

theorem solid_hex (hx : x = 'x' ∨ x = 'X') (hdigits : IsNumeral 16 n digits) : Solid ('0' :: x :: digits) := by
  refine ⟨List.cons_ne_nil _ _, fun c hc => ?_⟩
  rcases List.mem_cons.1 hc with rfl | hc
  · decide
  · rcases List.mem_cons.1 hc with rfl | hc
    · rcases hx with rfl | rfl <;> decide
    · exact not_separator_of_isNumeral (by decide) (by decide) hdigits hc

/-- Of the vocabularies in which no name starts with a digit, none knows a numeral that is no number. -/
theorem meaning?_decimal (hv : v.Lettered) (hdecimal : IsNumeral 10 n decimal) :
    meaning? v decimal = if n < 0x8000000000000000 then some (UInt32.ofNat n) else none := by
  unfold meaning?
  rw [readNumber?_decimal hdecimal]
  split
  · rfl
  · cases decimal with
    | nil => exact absurd rfl hdecimal.ne_nil
    | cons c rest => exact hv.lookup?_eq_none (hdecimal.isDigit List.mem_cons_self) rest

theorem meaning?_hex (hv : v.Lettered) (hx : x = 'x' ∨ x = 'X') (hdigits : IsNumeral 16 n digits) :
    meaning? v ('0' :: x :: digits) = if n < 0x100000000 then some (UInt32.ofNat n) else none := by
  unfold meaning?
  rw [readNumber?_hex hx hdigits]
  split
  · rfl
  · exact hv.lookup?_eq_none rfl _

/-- The two forms of a number.  Below `2 ^ 32` they do the same in every expression and for every vocabulary: they add
the bits of the number.  For vocabularies without names that start with a digit, they do the same exactly if the number is
below `2 ^ 32`, or too large for a signed 64-bit word, in which case both are reported; in between, the decimal form adds
the low 32 bits, and the hexadecimal form is reported. -/
theorem alike_numerals_iff (v : Vocabulary) (n : Nat) {decimal digits : List Char} {x : Char}
    (hdecimal : IsNumeral 10 n decimal) (hx : x = 'x' ∨ x = 'X') (hdigits : IsNumeral 16 n digits) :
    (n < 0x100000000 → Adds v decimal (UInt32.ofNat n) ∧ Adds v ('0' :: x :: digits) (UInt32.ofNat n)) ∧
      (v.Lettered →
        (Alike v decimal ('0' :: x :: digits) ↔ n < 0x100000000 ∨ 0x8000000000000000 ≤ n) ∧
        (0x8000000000000000 ≤ n → Reported v decimal ∧ Reported v ('0' :: x :: digits)) ∧
        (0x100000000 ≤ n → n < 0x8000000000000000 →
          Adds v decimal (UInt32.ofNat n) ∧ Reported v ('0' :: x :: digits))) := by
  have hsmall : n < 0x100000000 →
      Adds v decimal (UInt32.ofNat n) ∧ Adds v ('0' :: x :: digits) (UInt32.ofNat n) := by
    intro hn
    have hdec : readNumber? decimal = some (UInt32.ofNat n) := by rw [readNumber?_decimal hdecimal, if_pos (by omega)]
    have hhex : readNumber? ('0' :: x :: digits) = some (UInt32.ofNat n) := by
      rw [readNumber?_hex hx hdigits, if_pos hn]
    exact ⟨adds_of_meaning? (by rw [meaning?, hdec]; rfl), adds_of_meaning? (by rw [meaning?, hhex]; rfl)⟩
  refine ⟨hsmall, fun hv => ?_⟩
  have hlarge : 0x8000000000000000 ≤ n → Reported v decimal ∧ Reported v ('0' :: x :: digits) := fun hn =>
    ⟨reported_of_meaning? (by rw [meaning?_decimal hv hdecimal, if_neg (by omega)]),
      reported_of_meaning? (by rw [meaning?_hex hv hx hdigits, if_neg (by omega)])⟩
  have hbetween : 0x100000000 ≤ n → n < 0x8000000000000000 →
      Adds v decimal (UInt32.ofNat n) ∧ Reported v ('0' :: x :: digits) := fun hlow hhigh =>
    ⟨adds_of_meaning? (by rw [meaning?_decimal hv hdecimal, if_pos hhigh]),
      reported_of_meaning? (by rw [meaning?_hex hv hx hdigits, if_neg (by omega)])⟩
  refine ⟨⟨fun halike => ?_, ?_⟩, hlarge, hbetween⟩
  · refine Decidable.byContradiction fun hn => ?_
    obtain ⟨hadds, hreported⟩ := hbetween (by omega) (by omega)
    rcases halike with ⟨bits, -, hhex⟩ | ⟨hdec, -⟩
    · exact not_reported_of_adds (solid_hex hx hdigits) hhex hreported
    · exact not_reported_of_adds (solid_decimal hdecimal) hadds hdec
  · rintro (hn | hn)
    · exact .inl ⟨_, hsmall hn⟩
    · exact .inr (hlarge hn)

/-- A number of 24 bits, with a zero in front and letters in both cases. -/
theorem alike_numerals_letters :
    IsNumeral 10 11259375 "11259375".toList ∧ IsNumeral 16 11259375 "0aBCdeF".toList ∧
      Alike .weapon "11259375".toList "0X0aBCdeF".toList := by
  have hdecimal : IsNumeral 10 11259375 "11259375".toList := ⟨0, by simp [render, Numeral.digits]; decide⟩
  have hdigits : IsNumeral 16 11259375 "0aBCdeF".toList := ⟨1, by simp [render, Numeral.digits]; decide⟩
  have hnumerals := alike_numerals_iff .weapon 11259375 hdecimal (.inr rfl) hdigits
  exact ⟨hdecimal, hdigits,
    (hnumerals.2 (Vocabulary.lettered_of_mem_standard (by simp [Vocabulary.standard]))).1.2 (.inl (by decide))⟩

/-- One more than the largest word: the decimal form adds the lowest bit, and the hexadecimal form is unknown. -/
theorem decimal_beyond_word :
    IsNumeral 10 4294967297 "4294967297".toList ∧ IsNumeral 16 4294967297 "100000001".toList ∧
      parse .thing "4294967297" = (ThingFlag.special, []) ∧ parse .thing "0x100000001" = (0, ["0x100000001"]) := by
  refine ⟨⟨0, by simp [render, Numeral.digits]; decide⟩, ⟨0, by simp [render, Numeral.digits]; decide⟩, ?_, ?_⟩
  · decide
  · decide

end FlagExpression
end DoomPatch
