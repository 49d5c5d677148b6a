import DoomPatch.Proofs.Time.Stamp
import DoomPatch.Toml.Printer
import DoomPatch.Toml.Reader

/-!
# Reading what was written

Written texts, names and times are read back, whatever follows them on later lines.

* `escapedChar_cases`, `basic?_escaped` — texts in double quotes, with any characters.
* `path?_plain` — names without quotes.
* `term?_quoted`, `term?_stamp` — values; `term?_text_cases` — times of any year, of which some cannot be read.
* `statement?_assignment`, `statement?_heading` — lines.
* `Parses` — a text has some statements; `Parses.cons` — one more line in front of it.
* `isClean_of_forall` — a text without controls is admitted.
-/

namespace DoomPatch
namespace Toml

/-- Whether a character is no control. -/
def isVisible (c : Char) : Prop := 0x20 ≤ c.toNat ∧ c.toNat ≠ 0x7f

instance (c : Char) : Decidable (isVisible c) := inferInstanceAs (Decidable (_ ∧ _))

/-! ### Texts -/

theorem numericEscape?_hexPadded {n : Nat} (hn : n < 128) (rest : List Char) :
    numericEscape? 4 (Text.hexPadded 4 n ++ rest) = some (Char.ofNat n) := by
  have hlength : (Text.hexPadded 4 n).length = 4 :=
    Numeral.length_padLeft (Numeral.length_render_le (by decide) (by simp only [Numeral.limit]; omega))
  have hread : Numeral.readNat? 16 (Text.hexPadded 4 n) = some n := by
    unfold Numeral.readNat?
    rw [if_neg (by simp [← List.length_eq_zero_iff, hlength])]
    exact Numeral.readFrom_padLeft_render (by decide) (by decide) 4 n
  unfold numericEscape?
  rw [List.take_left' hlength, if_pos hlength, hread, Option.bind_some, if_pos (.inl (by omega))]

theorem isVisible_of_mem_hexPadded {width n : Nat} {c : Char} (hc : c ∈ Text.hexPadded width n) : isVisible c := by
  have hall : ∀ d < 16, 0x20 ≤ (Numeral.digitChar d).toNat ∧ (Numeral.digitChar d).toNat ≠ 0x7f := by decide
  rcases Numeral.mem_padLeft hc with rfl | hmem
  · exact ⟨by decide, by decide⟩
  · obtain ⟨d, hd, rfl⟩ := Numeral.mem_render (by decide) hmem
    exact hall d hd

/-- A character between quotes stands for itself, or a backslash stands before an escape that is read as it. -/
theorem escapedChar_cases (c : Char) :
    (escapedChar c = [c] ∧ c ≠ '"' ∧ c ≠ '\\' ∧ isBreak c = false ∧ isVisible c) ∨
      ∃ mark, escapedChar c = '\\' :: mark ∧ (∀ rest, escape? (mark ++ rest) = some (c, rest)) ∧
        ∀ d ∈ mark, isVisible d := by
  have hshort : ∀ mark : Char, isVisible mark → (∀ rest, escape? (mark :: rest) = some (c, rest)) →
      ∃ marks, ['\\', mark] = '\\' :: marks ∧ (∀ rest, escape? (marks ++ rest) = some (c, rest)) ∧
        ∀ d ∈ marks, isVisible d :=
    fun mark hvisible hread => ⟨[mark], rfl, hread, fun d hd => List.mem_singleton.1 hd ▸ hvisible⟩
  unfold escapedChar
  by_cases hquote : c = '"'
  · rw [if_pos hquote]
    exact .inr (hshort '"' (by decide) fun rest => by rw [hquote]; rfl)
  rw [if_neg hquote]
  by_cases hslash : c = '\\'
  · rw [if_pos hslash]
    exact .inr (hshort '\\' (by decide) fun rest => by rw [hslash]; rfl)
  rw [if_neg hslash]
  by_cases hback : c = '\x08'
  · rw [if_pos hback]
    exact .inr (hshort 'b' (by decide) fun rest => by rw [hback]; rfl)
  rw [if_neg hback]
  by_cases htab : c = '\t'
  · rw [if_pos htab]
    exact .inr (hshort 't' (by decide) fun rest => by rw [htab]; rfl)
  rw [if_neg htab]
  by_cases hfeed : c = '\n'
  · rw [if_pos hfeed]
    exact .inr (hshort 'n' (by decide) fun rest => by rw [hfeed]; rfl)
  rw [if_neg hfeed]
  by_cases hform : c = '\x0c'
  · rw [if_pos hform]
    exact .inr (hshort 'f' (by decide) fun rest => by rw [hform]; rfl)
  rw [if_neg hform]
  by_cases hreturn : c = '\r'
  · rw [if_pos hreturn]
    exact .inr (hshort 'r' (by decide) fun rest => by rw [hreturn]; rfl)
  rw [if_neg hreturn]
  by_cases hcontrol : (decide (c.toNat < 0x20) || decide (c.toNat = 0x7f)) = true
  · rw [if_pos hcontrol]
    rw [Bool.or_eq_true, decide_eq_true_eq, decide_eq_true_eq] at hcontrol
    have hlength : (Text.hexPadded 4 c.toNat).length = 4 :=
      Numeral.length_padLeft (Numeral.length_render_le (by decide) (by simp only [Numeral.limit]; omega))
    refine .inr ⟨'u' :: Text.hexPadded 4 c.toNat, rfl, fun rest => ?_, fun d hd => ?_⟩
    · rw [List.cons_append, escape?, numericEscape?_hexPadded (by omega), Option.map_some, List.drop_left' hlength,
        Char.ofNat_toNat]
    · rcases List.mem_cons.1 hd with rfl | hd
      · decide
      · exact isVisible_of_mem_hexPadded hd
  · rw [if_neg hcontrol]
    rw [Bool.or_eq_true, decide_eq_true_eq, decide_eq_true_eq, not_or] at hcontrol
    refine .inl ⟨rfl, hquote, hslash, ?_, by omega, hcontrol.2⟩
    simp [isBreak, hfeed, hreturn]

/-- A text is read up to its closing quote, on top of what was read before. -/
theorem basicFrom?_escaped (l done rest : List Char) (fuel : Nat) (hfuel : l.length < fuel) :
    basicFrom? done fuel (l.flatMap escapedChar ++ '"' :: rest) = some (String.ofList (done.reverse ++ l), rest) := by
  induction l generalizing done fuel with
  | nil =>
      obtain ⟨fuel, rfl⟩ := Nat.exists_eq_add_one_of_ne_zero (by omega : fuel ≠ 0)
      simp [basicFrom?]
  | cons c l ih =>
      obtain ⟨fuel, rfl⟩ := Nat.exists_eq_add_one_of_ne_zero (by omega : fuel ≠ 0)
      have hrest := ih (c :: done) fuel (by simpa using hfuel)
      have hdone : (c :: done).reverse ++ l = done.reverse ++ c :: l := by simp
      rw [hdone] at hrest
      rcases escapedChar_cases c with ⟨hself, hquote, hslash, hbreak, -⟩ | ⟨mark, hmark, hread, -⟩
      · rw [List.flatMap_cons, hself, List.singleton_append, List.cons_append, basicFrom?, if_neg hquote, if_neg hslash,
          hbreak, if_neg (by decide)]
        exact hrest
      · rw [List.flatMap_cons, hmark, List.append_assoc, List.cons_append, basicFrom?, if_neg (by decide), if_pos rfl,
          hread, Option.bind_some]
        exact hrest

theorem length_le_flatMap_escapedChar (l : List Char) : l.length ≤ (l.flatMap escapedChar).length := by
  induction l with
  | nil => exact Nat.le_refl _
  | cons c l ih =>
      have hpos : 0 < (escapedChar c).length := by
        rcases escapedChar_cases c with ⟨hself, -⟩ | ⟨mark, hmark, -⟩
        · simp [hself]
        · simp [hmark]
      rw [List.flatMap_cons, List.length_append, List.length_cons]
      omega

theorem toList_quoted (s : String) (rest : List Char) :
    (quoted s).toList ++ rest = '"' :: (s.toList.flatMap escapedChar ++ '"' :: rest) := by
  simp [quoted]

/-- A text in quotes is read back. -/
theorem basic?_escaped (s : String) (rest : List Char) :
    basic? (s.toList.flatMap escapedChar ++ '"' :: rest) = some (s, rest) := by
  have hlength := length_le_flatMap_escapedChar s.toList
  unfold basic?
  rw [basicFrom?_escaped, List.reverse_nil, List.nil_append, String.ofList_toList]
  rw [List.length_append]
  omega

/-! ### Names -/

theorem isPlainName_iff {name : String} :
    isPlainName name = true ↔ name.toList ≠ [] ∧ ∀ c ∈ name.toList, isBare c = true := by
  unfold isPlainName isBare
  rw [Bool.and_eq_true, List.all_eq_true, Bool.not_eq_true', String.isEmpty_eq_false_iff]
  simp

theorem name?_plain {name : String} (hname : isPlainName name = true) {tail : List Char}
    (htail : ∀ c, tail.head? = some c → isBare c = false) : name? (name.toList ++ tail) = some (name, tail) := by
  obtain ⟨hne, hbare⟩ := isPlainName_iff.1 hname
  have htake : (name.toList ++ tail).takeWhile isBare = name.toList := by
    rw [List.takeWhile_append_of_pos hbare]
    cases tail with
    | nil => simp
    | cons c tail => simp [htail c rfl]
  unfold name?
  split
  · next heq =>
    -- A quote is not part of a plain name.
    have hquote := hbare '"' (by cases h : name.toList with | nil => exact absurd h hne | cons => simp_all)
    exact absurd hquote (by decide)
  · next heq =>
    have hquote := hbare '\'' (by cases h : name.toList with | nil => exact absurd h hne | cons => simp_all)
    exact absurd hquote (by decide)
  · dsimp only
    rw [htake, if_neg (by simpa using hne), String.ofList_toList, List.drop_left]

/-- A plain name is read back, with the blanks behind it. -/
theorem path?_plain {name : String} (hname : isPlainName name = true) (tail : List Char) {rest : List Char} {c : Char}
    (htail : ∀ d, tail.head? = some d → isBare d = false) (hskip : skipGaps tail = c :: rest) (hc : c ≠ '.') :
    path? (name.toList ++ tail) = some ([name], c :: rest) := by
  have hend : pathFrom? (tail.length + 1) tail = some ([], c :: rest) := by
    unfold pathFrom?
    rw [hskip]
    split
    · next heq => exact absurd (List.cons.inj heq).1 hc
    · rfl
  unfold path?
  rw [name?_plain hname htail]
  simp only [Option.bind_eq_bind, Option.bind_some, hend]
  rfl

/-! ### Values -/

/-- The characters of the numbers, marks and letters of a time in universal time. -/
def isStampMark (c : Char) : Bool := c.isDigit || ['-', ':', 'T', '.', 'Z'].contains c

/-- A text in quotes is read as a value, if the line ends behind it. -/
theorem term?_quoted (s : String) (rest : List Char) (fuel : Nat) :
    term? (fuel + 1) ((quoted s).toList ++ '\n' :: rest) = some (.atom (.text s), '\n' :: rest) := by
  have hread := basic?_escaped s ('\n' :: rest)
  have hnotriple : ∀ more, s.toList.flatMap escapedChar ++ '"' :: '\n' :: rest ≠ '"' :: '"' :: more := by
    intro more heq
    cases hs : s.toList with
    | nil =>
        rw [hs] at heq
        exact absurd (List.cons.inj (List.cons.inj heq).2).1 (by decide)
    | cons c l =>
        rw [hs, List.flatMap_cons] at heq
        rcases escapedChar_cases c with ⟨hself, hquote, -⟩ | ⟨mark, hmark, -⟩
        · rw [hself] at heq
          exact hquote (List.cons.inj heq).1
        · rw [hmark] at heq
          exact absurd (List.cons.inj heq).1 (by decide)
  rw [toList_quoted]
  generalize s.toList.flatMap escapedChar ++ '"' :: '\n' :: rest = cs at hread hnotriple
  unfold term?
  split
  · next heq => exact absurd (List.cons.inj heq).2 (hnotriple _)
  · next heq =>
    rw [← (List.cons.inj heq).2, hread]
    rfl
  · next heq => exact absurd (List.cons.inj heq).1 (by decide)
  · next heq => exact absurd (List.cons.inj heq).1 (by decide)
  · next heq => exact absurd (List.cons.inj heq).1 (by decide)
  · next heq => exact absurd (List.cons.inj heq).1 (by decide)
  · next _ hno _ _ _ _ => exact absurd rfl (hno cs)

theorem isStampMark_of_mem_text {t : Stamp} (ht : t.offset = 0) {c : Char} (hc : c ∈ t.text.toList) :
    isStampMark c = true := by
  have hmark : c.isDigit = true ∨ c ∈ ['-', ':', 'T', '.', 'Z'] := by
    rw [Stamp.toList_text ht, List.mem_append, List.mem_cons, List.mem_append, List.mem_append] at hc
    rcases hc with hc | rfl | hc | hc | hc
    · exact (Stamp.isDigit_of_mem_dateText hc).imp_right fun h => by simp [h]
    · exact .inr (by decide)
    · exact (Stamp.isDigit_of_mem_clockText hc).imp_right fun h => by simp [h]
    · exact (Stamp.isDigit_of_mem_fractionText hc).imp_right fun h => by simp [h]
    · exact .inr (by simp [List.mem_singleton.1 hc])
  unfold isStampMark
  rw [Bool.or_eq_true, List.contains_iff_mem]
  exact hmark

theorem normalMark_of_isStampMark {c : Char} (hc : isStampMark c = true) : normalMark c = c := by
  have hlower : c ≠ 't' ∧ c ≠ ' ' ∧ c ≠ 'z' := by
    refine ⟨?_, ?_, ?_⟩ <;> (rintro rfl; exact absurd hc (by decide))
  unfold normalMark
  rw [if_neg (by simp [hlower]), if_neg hlower.2.2]

theorem isStampChar_of_isStampMark {c : Char} (hc : isStampMark c = true) : isStampChar c = true := by
  unfold isStampMark at hc
  unfold isStampChar
  rw [Bool.or_eq_true, List.contains_iff_mem] at hc ⊢
  refine hc.imp_right fun hmem => ?_
  have hall : ∀ c ∈ ['-', ':', 'T', '.', 'Z'], c ∈ ['-', ':', 'T', 't', ' ', '.', 'Z', 'z', '+'] := by simp
  exact hall c hmem

/-- The time of a word is the time whose text it is. -/
theorem stamp?_text {t : Stamp} (ht : t.Recordable) : stamp? t.utc.text.toList = some t.utc := by
  have hmap : t.utc.text.toList.map normalMark = t.utc.text.toList := by
    refine (List.map_congr_left fun c hc => ?_).trans (List.map_id _)
    exact normalMark_of_isStampMark (isStampMark_of_mem_text rfl hc)
  have hdate := Stamp.readDate?_dateText (s := t.utc) ⟨ht.year_nonneg, ht.year_le⟩
    ('T' :: (t.utc.clockText.toList ++ (t.utc.fractionText.toList ++ ['Z'])))
  rw [← Stamp.toList_text rfl] at hdate
  unfold stamp?
  simp only [hmap, hdate]
  unfold wholeClock?
  rw [if_pos (Stamp.digits?_clockText _ _), Stamp.readClock?_clockText (s := t.utc) ht.nanos_lt]
  simp only [Option.bind_eq_bind, Option.bind_some]
  rw [if_neg (by decide)]
  simp only [Stamp.readOffset?, Option.bind_some]
  rw [Stamp.ofParts_date rfl]
  rfl

/-- A value that begins with a digit or a sign is a word. -/
theorem term?_of_sign {c : Char} (hc : c.isDigit = true ∨ c = '-') (cs : List Char) (fuel : Nat) :
    term? (fuel + 1) (c :: cs) = (word? (c :: cs)).map fun (v, rest) => (.atom v, rest) := by
  have hother : ∀ d, c = d → d.isDigit = true ∨ d = '-' := fun d hd => hd ▸ hc
  unfold term?
  split
  · next heq => exact absurd (hother _ (List.cons.inj heq).1) (by decide)
  · next heq => exact absurd (hother _ (List.cons.inj heq).1) (by decide)
  · next heq => exact absurd (hother _ (List.cons.inj heq).1) (by decide)
  · next heq => exact absurd (hother _ (List.cons.inj heq).1) (by decide)
  · next heq => exact absurd (hother _ (List.cons.inj heq).1) (by decide)
  · next heq => exact absurd (hother _ (List.cons.inj heq).1) (by decide)
  · rfl

theorem term?_text {t : Stamp} (ht : t.offset = 0) (rest : List Char) (fuel : Nat) :
    term? (fuel + 1) (t.text.toList ++ '\n' :: rest) =
      (word? (t.text.toList ++ '\n' :: rest)).map fun (v, rest) => (.atom v, rest) := by
  obtain ⟨c, date, hdate⟩ := List.exists_cons_of_ne_nil t.dateText_ne_nil
  have hc : c.isDigit = true ∨ c = '-' := Stamp.isDigit_of_mem_dateText (s := t) (by simp [hdate])
  rw [Stamp.toList_text ht, hdate]
  exact term?_of_sign hc _ fuel

/-- What looks like a time is read up to the end of its line. -/
theorem word?_text {t : Stamp} (ht : t.offset = 0) {rest : List Char}
    (hstart : startsStamp (t.text.toList ++ '\n' :: rest) = true) :
    word? (t.text.toList ++ '\n' :: rest) = (stamp? t.text.toList).map fun s => (.stamp s, '\n' :: rest) := by
  have hmarks : ∀ c ∈ t.text.toList, isStampChar c = true := fun c hc =>
    isStampChar_of_isStampMark (isStampMark_of_mem_text ht hc)
  have htake := (Stamp.takeWhile_of_all hmarks (by decide : isStampChar '\n' = false) rest).1
  have htrim : (t.text.toList.reverse.dropWhile (· == ' ')).reverse = t.text.toList := by
    rw [Stamp.toList_text ht]
    simp
  unfold word?
  rw [if_pos hstart]
  dsimp only
  rw [htake, htrim, List.drop_left]

/-- A time in universal time is read as a value, if the line ends behind it. -/
theorem term?_stamp {t : Stamp} (ht : t.Recordable) (rest : List Char) (fuel : Nat) :
    term? (fuel + 1) (t.utc.text.toList ++ '\n' :: rest) = some (.atom (.stamp t.utc), '\n' :: rest) := by
  have hlength : (Numeral.padInt 4 t.utc.date.year).toList.length = 4 :=
    Stamp.length_padInt (by decide) ht.year_nonneg (Int.lt_of_le_of_lt ht.year_le (by decide))
  obtain ⟨digit, digits, hdigits⟩ := List.exists_cons_of_length_pos (by rw [hlength]; decide)
  have hyear : ∀ c ∈ digit :: digits, c.isDigit = true := fun c hc =>
    Stamp.isDigit_of_mem_padInt ht.year_nonneg (hdigits ▸ hc)
  have hstart : startsStamp (t.utc.text.toList ++ '\n' :: rest) = true := by
    rw [Stamp.toList_text rfl, Stamp.toList_dateText ht.year_nonneg, hdigits, List.append_assoc, List.append_assoc,
      List.cons_append (a := '-')]
    obtain ⟨htake, hdrop⟩ := Stamp.takeWhile_of_all hyear (by decide : '-'.isDigit = false) _
    unfold startsStamp
    rw [htake, hdrop]
    rfl
  rw [term?_text rfl, word?_text rfl hstart, stamp?_text ht]
  rfl

/-- Whatever its year, a time in universal time is read as some time up to the end of its line, or what is left of the
line has no end. -/
theorem term?_text_cases {t : Stamp} (ht : t.offset = 0) (rest : List Char) :
    (∃ s, ∀ fuel, term? (fuel + 1) (t.text.toList ++ '\n' :: rest) = some (.atom (.stamp s), '\n' :: rest)) ∨
      ∀ fuel x, term? (fuel + 1) (t.text.toList ++ '\n' :: rest) = some x → endLine? x.2 = none := by
  by_cases hstart : startsStamp (t.text.toList ++ '\n' :: rest) = true
  · cases hstamp : stamp? t.text.toList with
    | some s =>
        refine .inl ⟨s, fun fuel => ?_⟩
        rw [term?_text ht, word?_text ht hstart, hstamp]
        rfl
    | none =>
        refine .inr fun fuel x hx => ?_
        rw [term?_text ht, word?_text ht hstart, hstamp] at hx
        cases hx
  · -- A number ends before the first colon.
    have hclock := t.clock_bounds
    have hfront : ∀ c ∈ t.dateText.toList ++ 'T' :: (Numeral.padInt 2 t.clock.1).toList, isNumberChar c = true := by
      intro c hc
      have hchar : c.isDigit = true ∨ c = '-' ∨ c = 'T' := by
        rw [List.mem_append, List.mem_cons] at hc
        rcases hc with hc | rfl | hc
        · exact (Stamp.isDigit_of_mem_dateText hc).imp_right .inl
        · exact .inr (.inr rfl)
        · exact .inl (Stamp.isDigit_of_mem_padInt (by omega) hc)
      rcases hchar with hdigit | rfl | rfl
      · simp [isNumberChar, Char.isAlphanum, hdigit]
      · decide
      · decide
    obtain ⟨rear, hrear⟩ : ∃ rear, t.text.toList ++ '\n' :: rest =
        (t.dateText.toList ++ 'T' :: (Numeral.padInt 2 t.clock.1).toList) ++ ':' :: rear := by
      rw [Stamp.toList_text ht, Stamp.toList_clockText]
      simp only [List.append_assoc, List.cons_append]
      exact ⟨_, rfl⟩
    refine .inr fun fuel x hx => ?_
    rw [term?_text ht] at hx
    obtain ⟨⟨v, tail⟩, hword, rfl⟩ := Option.map_eq_some_iff.1 hx
    have htail : tail = ':' :: rear := by
      unfold word? at hword
      rw [if_neg hstart, hrear] at hword
      dsimp only at hword
      rw [(Stamp.takeWhile_of_all hfront (by decide : isNumberChar ':' = false) rear).1, List.drop_left] at hword
      split at hword
      · cases hword
        rfl
      · split at hword
        · cases hword
          rfl
        · obtain ⟨n, -, heq⟩ := Option.map_eq_some_iff.1 hword
          cases heq
          rfl
    rw [htail]
    rfl

/-! ### Lines -/

theorem isGap_of_isBare {c : Char} (hc : isBare c = true) : isGap c = false := by
  have hgap : c ≠ ' ' ∧ c ≠ '\t' := by
    constructor <;> (rintro rfl; exact absurd hc (by decide))
  simp [isGap, hgap]

theorem skipGaps_of_head {c : Char} {cs : List Char} (hc : isGap c = false) : skipGaps (c :: cs) = c :: cs := by
  unfold skipGaps
  rw [List.dropWhile_cons_of_neg (by simp [hc])]

/-- A line with a plain name is read as its value is. -/
theorem statement?_of_term? {name : String} (hname : isPlainName name = true) {value : List Char}
    (hgap : ∀ c, value.head? = some c → isGap c = false) (rest : List Char) :
    statement? (name.toList ++ ' ' :: '=' :: ' ' :: (value ++ '\n' :: rest)) =
      (term? ((' ' :: (value ++ '\n' :: rest)).length + 1) (value ++ '\n' :: rest)).bind fun x =>
        (endLine? x.2).map fun rest => (.assignment [name] x.1, rest) := by
  obtain ⟨hne, hbare⟩ := isPlainName_iff.1 hname
  obtain ⟨c, letters, hletters⟩ := List.exists_cons_of_ne_nil hne
  have hc : c ≠ '[' := by
    rintro rfl
    exact absurd (hbare '[' (by simp [hletters])) (by decide)
  have hpath := path?_plain hname (' ' :: '=' :: ' ' :: (value ++ '\n' :: rest))
    (fun d hd => by cases hd; decide) rfl (by decide : '=' ≠ '.')
  have hskip : skipGaps (' ' :: (value ++ '\n' :: rest)) = value ++ '\n' :: rest := by
    cases value with
    | nil => rfl
    | cons first value => exact skipGaps_of_head (hgap first rfl)
  unfold statement?
  split
  · next heq =>
    rw [hletters] at heq
    exact absurd (List.cons.inj heq).1 hc
  · next heq =>
    rw [hletters] at heq
    exact absurd (List.cons.inj heq).1 hc
  · rw [hpath]
    change ((term? _ (skipGaps (' ' :: (value ++ '\n' :: rest)))).bind fun x =>
      (endLine? x.2).map fun rest => (Statement.assignment [name] x.1, rest)) = _
    rw [hskip]

/-- A line with a plain name and a value. -/
theorem statement?_assignment {name : String} (hname : isPlainName name = true) {value rest : List Char} {v : Value}
    (hgap : ∀ c, value.head? = some c → isGap c = false)
    (hterm : ∀ fuel, term? (fuel + 1) (value ++ '\n' :: rest) = some (.atom v, '\n' :: rest)) :
    statement? (name.toList ++ ' ' :: '=' :: ' ' :: (value ++ '\n' :: rest)) =
      some (.assignment [name] (.atom v), rest) := by
  rw [statement?_of_term? hname hgap, hterm, Option.bind_some]
  rfl

/-- A heading. -/
theorem statement?_heading {name : String} (hname : isPlainName name = true) (rest : List Char) :
    statement? ('[' :: (name.toList ++ ']' :: '\n' :: rest)) = some (.heading [name], rest) := by
  obtain ⟨hne, hbare⟩ := isPlainName_iff.1 hname
  obtain ⟨c, letters, hletters⟩ := List.exists_cons_of_ne_nil hne
  have hmem : isBare c = true := hbare c (by simp [hletters])
  have hpath := path?_plain hname (']' :: '\n' :: rest) (fun d hd => by cases hd; decide) rfl
    (by decide : ']' ≠ '.')
  have hskip : skipGaps (name.toList ++ ']' :: '\n' :: rest) = name.toList ++ ']' :: '\n' :: rest := by
    rw [hletters]
    exact skipGaps_of_head (isGap_of_isBare hmem)
  unfold statement?
  split
  · next heq =>
    -- A bracket is not part of a plain name.
    rw [hletters] at heq
    have hbracket : c = '[' := (List.cons.inj (List.cons.inj heq).2).1
    exact absurd (hbracket ▸ hmem) (by decide)
  · next heq =>
    rw [← (List.cons.inj heq).2, hskip, hpath]
    rfl
  · next hno => exact absurd rfl (hno _)

/-! ### Whole texts -/

theorem skipLines_of_start {c : Char} {cs : List Char} (hgap : isGap c = false) (hbreak : isBreak c = false)
    (hcomment : c ≠ '#') (fuel : Nat) : skipLines (fuel + 1) (c :: cs) = c :: cs := by
  have hskip : skipComment (skipGaps (c :: cs)) = c :: cs := by
    rw [skipGaps_of_head hgap]
    unfold skipComment
    split
    · next heq => exact absurd (List.cons.inj heq).1 hcomment
    · rfl
  unfold skipLines
  rw [hskip]
  dsimp only
  rw [hbreak]
  rfl

theorem skipLines_blank (cs : List Char) (fuel : Nat) : skipLines (fuel + 1) (' ' :: cs) = skipLines (fuel + 1) cs := by
  unfold skipLines
  rfl

theorem skipLines_feed (cs : List Char) (fuel : Nat) : skipLines (fuel + 1) ('\n' :: cs) = skipLines fuel cs := by
  conv => lhs; unfold skipLines
  rfl

/-- The text consists of some statements. -/
def Parses (cs : List Char) (ss : List Statement) : Prop := ∀ fuel, ss.length < fuel → statementsFrom? fuel cs = some ss

theorem Parses.nil : Parses [] [] := by
  intro fuel hfuel
  obtain ⟨fuel, rfl⟩ := Nat.exists_eq_add_one_of_ne_zero (by omega : fuel ≠ 0)
  rfl

/-- A text whose first line can be read is read as the rest is. -/
theorem statementsFrom?_succ {cs start rest : List Char} {s : Statement}
    (hskip : skipLines (cs.length + 1) cs = start) (hs : statement? start = some (s, rest)) (fuel : Nat) :
    statementsFrom? (fuel + 1) cs = (statementsFrom? fuel rest).map (s :: ·) := by
  conv => lhs; unfold statementsFrom?
  rw [hskip]
  split
  · cases hs
  · rw [hs, Option.bind_some]

/-- A text whose first line cannot be read is not read. -/
theorem statementsFrom?_eq_none {cs start : List Char} (hskip : skipLines (cs.length + 1) cs = start)
    (hstart : start ≠ []) (hs : statement? start = none) (fuel : Nat) : statementsFrom? fuel cs = none := by
  cases fuel with
  | zero => rfl
  | succ fuel =>
      unfold statementsFrom?
      rw [hskip]
      split
      · exact absurd rfl hstart
      · rw [hs]
        rfl

theorem Parses.cons {cs start rest : List Char} {s : Statement} {ss : List Statement}
    (hskip : skipLines (cs.length + 1) cs = start) (hs : statement? start = some (s, rest)) (hrest : Parses rest ss) :
    Parses cs (s :: ss) := by
  intro fuel hfuel
  obtain ⟨fuel, rfl⟩ := Nat.exists_eq_add_one_of_ne_zero (by omega : fuel ≠ 0)
  rw [statementsFrom?_succ hskip hs, hrest fuel (by simpa using hfuel)]
  rfl

/-- A line that begins with a plain name begins there. -/
theorem skipLines_plain {name : String} (hname : isPlainName name = true) (tail : List Char) (fuel : Nat) :
    skipLines (fuel + 1) (name.toList ++ tail) = name.toList ++ tail := by
  obtain ⟨hne, hbare⟩ := isPlainName_iff.1 hname
  obtain ⟨c, letters, hletters⟩ := List.exists_cons_of_ne_nil hne
  have hmem : isBare c = true := hbare c (by simp [hletters])
  have hother : isBreak c = false ∧ c ≠ '#' := by
    have hbreak : c ≠ '\n' ∧ c ≠ '\r' ∧ c ≠ '#' := by
      refine ⟨?_, ?_, ?_⟩ <;> (rintro rfl; exact absurd hmem (by decide))
    simp [isBreak, hbreak]
  rw [hletters]
  exact skipLines_of_start (isGap_of_isBare hmem) hother.1 hother.2 _

/-- A line with a plain name and a value, possibly behind blanks. -/
theorem Parses.assignment {name : String} (hname : isPlainName name = true) {value rest cs : List Char} {v : Value}
    {ss : List Statement} (hgap : ∀ c, value.head? = some c → isGap c = false)
    (hterm : ∀ fuel, term? (fuel + 1) (value ++ '\n' :: rest) = some (.atom v, '\n' :: rest))
    (hskip : ∀ fuel, skipLines (fuel + 1) cs
      = skipLines (fuel + 1) (name.toList ++ ' ' :: '=' :: ' ' :: (value ++ '\n' :: rest)))
    (hrest : Parses rest ss) : Parses cs (.assignment [name] (.atom v) :: ss) :=
  Parses.cons ((hskip _).trans (skipLines_plain hname _ _)) (statement?_assignment hname hgap hterm) hrest

theorem isClean_of_forall {cs : List Char} (hcs : ∀ c ∈ cs, isVisible c ∨ c = '\n') : isClean cs = true := by
  fun_induction isClean cs with
  | case1 => rfl
  | case2 cs ih =>
      have hreturn := hcs '\r' (by simp)
      exact absurd hreturn (by decide)
  | case3 c cs hno ih =>
      rw [ih fun d hd => hcs d (List.mem_cons_of_mem _ hd), Bool.and_true]
      rcases hcs c List.mem_cons_self with hvisible | rfl
      · simp [hvisible.1, hvisible.2]
      · decide

theorem isVisible_of_mem_quoted {s : String} {c : Char} (hc : c ∈ (quoted s).toList) : isVisible c := by
  have hchars : (quoted s).toList = '"' :: (s.toList.flatMap escapedChar ++ ['"']) := String.toList_ofList
  rw [hchars, List.mem_cons, List.mem_append, List.mem_singleton] at hc
  rcases hc with rfl | hc | rfl
  · decide
  · obtain ⟨d, -, hd⟩ := List.mem_flatMap.1 hc
    rcases escapedChar_cases d with ⟨hself, -, -, -, hvisible⟩ | ⟨mark, hmark, -, hvisible⟩
    · rw [hself, List.mem_singleton] at hd
      exact hd ▸ hvisible
    · rw [hmark] at hd
      rcases List.mem_cons.1 hd with rfl | hd
      · decide
      · exact hvisible c hd
  · decide

/-- What stands in names and in times is visible; below 128 that is checked one by one. -/
theorem isVisible_of_isBare {c : Char} (hc : isBare c = true ∨ isStampMark c = true) : isVisible c := by
  have hall : ∀ n < 128, isBare (Char.ofNat n) = true ∨ isStampMark (Char.ofNat n) = true →
      isVisible (Char.ofNat n) := by
    decide
  by_cases hlow : c.toNat < 128
  · have hvisible := hall c.toNat hlow
    rw [Char.ofNat_toNat] at hvisible
    exact hvisible hc
  · exact ⟨by omega, by omega⟩

/-- A text without controls is read as the statements it consists of. -/
theorem statements?_of_parses {text : String} {ss : List Statement} {c : Char} {cs : List Char}
    (htext : text.toList = c :: cs) (hmark : c ≠ '\ufeff') (hclean : ∀ c ∈ text.toList, isVisible c ∨ c = '\n')
    (hlength : ss.length ≤ text.toList.length) (hparses : Parses text.toList ss) : statements? text = some ss := by
  have hdrop : dropMark text.toList = text.toList := by
    rw [htext]
    unfold dropMark
    split
    · next heq => exact absurd (List.cons.inj heq).1 hmark
    · rfl
  unfold statements?
  rw [hdrop]
  dsimp only
  rw [if_pos (isClean_of_forall hclean)]
  exact hparses _ (by omega)

end Toml
end DoomPatch
