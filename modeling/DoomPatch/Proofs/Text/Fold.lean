import Mathlib.Data.List.TakeWhile
import DoomPatch.Proofs.Text.Bare
import DoomPatch.Text.Blank
import DoomPatch.Text.Case

/-!
# Names in any letter case

A field is found under its name in any letter case and with white space around it.  What may be written for a name is
said here letter by letter, and nothing is folded or trimmed for it.  On names in ASCII without white space at their
ends, comparing what is left after trimming and folding comes to the same.

* `Text.spaces`, `Text.isBlank_iff` — the white space characters.
* `Text.Spells` — a name in any letter case; a few characters stand for one or more letters.
* `Text.Denotes` — the same with white space around it.
* `Text.trimChars_append`, `Text.trimChars_of_ends` — what trimming drops and what it leaves.
* `Text.foldName_eq_iff`, `Text.denotes_iff` — folded names are the same exactly if one is a way to write the other.
-/

namespace DoomPatch
namespace Text

/-! ### White space -/

/-- The code points of white space. -/
def spaces : List Nat :=
  [0x09, 0x0A, 0x0B, 0x0C, 0x0D, 0x20, 0x85, 0xA0, 0x1680, 0x2000, 0x2001, 0x2002, 0x2003, 0x2004, 0x2005, 0x2006,
    0x2007, 0x2008, 0x2009, 0x200A, 0x2028, 0x2029, 0x202F, 0x205F, 0x3000]

theorem isBlank_iff (c : Char) : isBlank c = true ↔ c.toNat ∈ spaces := by
  unfold isBlank spaces
  simp only [Bool.or_eq_true, Bool.and_eq_true, decide_eq_true_eq, beq_iff_eq, List.mem_cons, List.not_mem_nil,
    or_false]
  omega

theorem dropWhile_isBlank {cs : List Char} (hcs : ∀ c ∈ cs, isBlank c = true) : cs.dropWhile isBlank = [] := by
  rwa [List.dropWhile_eq_nil_iff]

/-- White space at the ends does not matter. -/
theorem trimChars_append {before behind : List Char} (hbefore : ∀ c ∈ before, isBlank c = true)
    (hbehind : ∀ c ∈ behind, isBlank c = true) (cs : List Char) :
    trimChars (before ++ cs ++ behind) = trimChars cs := by
  have hfront : (before ++ cs ++ behind).dropWhile isBlank = (cs ++ behind).dropWhile isBlank := by
    rw [List.append_assoc, List.dropWhile_append, dropWhile_isBlank hbefore]
    rfl
  unfold trimChars
  rw [hfront, List.dropWhile_append]
  split
  · next hempty => rw [dropWhile_isBlank hbehind, List.isEmpty_iff.1 hempty]
  · rw [List.reverse_append, List.dropWhile_append, dropWhile_isBlank (by simpa using hbehind)]
    rfl

/-- What trimming drops is white space. -/
theorem exists_trimChars (cs : List Char) :
    ∃ before behind, cs = before ++ trimChars cs ++ behind ∧ (∀ c ∈ before, isBlank c = true) ∧
      ∀ c ∈ behind, isBlank c = true := by
  have hblank : ∀ {l : List Char} {c : Char}, c ∈ l.takeWhile isBlank → isBlank c = true :=
    fun hc => List.mem_takeWhile_imp hc
  let rest := cs.dropWhile isBlank
  have hrest : trimChars cs ++ (rest.reverse.takeWhile isBlank).reverse = rest := by
    change (rest.reverse.dropWhile isBlank).reverse ++ _ = _
    rw [← List.reverse_append, List.takeWhile_append_dropWhile, List.reverse_reverse]
  refine ⟨cs.takeWhile isBlank, (rest.reverse.takeWhile isBlank).reverse, ?_, fun c => hblank, fun c hc => ?_⟩
  · rw [List.append_assoc, hrest, List.takeWhile_append_dropWhile]
  · exact hblank (List.mem_reverse.1 hc)

/-- A list has no white space at its ends. -/
def Trimmed (cs : List Char) : Prop :=
  (∀ c rest, cs = c :: rest → isBlank c = false) ∧ ∀ rest c, cs = rest ++ [c] → isBlank c = false

theorem trimChars_of_ends {cs : List Char} (hcs : Trimmed cs) : trimChars cs = cs := by
  have hdrop : ∀ {l : List Char}, (∀ c rest, l = c :: rest → isBlank c = false) → l.dropWhile isBlank = l := by
    intro l hl
    cases l with
    | nil => rfl
    | cons c rest => rw [List.dropWhile_cons_of_neg (by simp [hl c rest rfl])]
  have hback : ∀ c rest, cs.reverse = c :: rest → isBlank c = false := by
    intro c rest heq
    refine hcs.2 rest.reverse c ?_
    rw [← List.reverse_reverse cs, heq, List.reverse_cons]
  unfold trimChars
  rw [hdrop hcs.1, hdrop hback, List.reverse_reverse]

/-! ### Letter case -/

/-- The characters that stand for other letters: the long s, the Kelvin sign, the sharp s and the ligatures. -/
def joined : List (Char × List Char) :=
  [('ſ', ['s']), ('\u212A', ['k']), ('ß', ['s', 's']), ('ẞ', ['s', 's']), ('ﬀ', ['f', 'f']), ('ﬁ', ['f', 'i']),
    ('ﬂ', ['f', 'l']), ('ﬃ', ['f', 'f', 'i']), ('ﬄ', ['f', 'f', 'l']), ('ﬅ', ['s', 't']), ('ﬆ', ['s', 't'])]

/-- What may be written for a name: each letter in either case, or one character for the letters that it joins. -/
inductive Spells : List Char → List Char → Prop
  | nil : Spells [] []
  | letter {c d : Char} {cs ds : List Char} (hcase : c.toLower = d.toLower) (hrest : Spells cs ds) :
      Spells (c :: cs) (d :: ds)
  | joined {c : Char} {letters front cs ds : List Char} (hjoined : (c, letters) ∈ joined)
      (hfront : front.map Char.toLower = letters) (hrest : Spells cs ds) : Spells (c :: cs) (front ++ ds)

/-- The same with white space around it. -/
def Denotes (written name : String) : Prop :=
  ∃ before middle behind, written.toList = before ++ middle ++ behind ∧ (∀ c ∈ before, c.toNat ∈ spaces) ∧
    (∀ c ∈ behind, c.toNat ∈ spaces) ∧ Spells middle name.toList

/-- A joined character folds to its letters, is beyond ASCII, and is not white space. -/
theorem joined_eq {c : Char} {letters : List Char} (hc : (c, letters) ∈ joined) :
    foldFull c = letters ∧ 128 ≤ c.toNat ∧ c.toLower = c ∧ isBlank c = false := by
  have hall : (joined.all fun e =>
      foldFull e.1 == e.2 && decide (128 ≤ e.1.toNat) && e.1.toLower == e.1 && !isBlank e.1) = true := by decide
  have hentry := List.all_eq_true.1 hall _ hc
  simpa [and_assoc] using hentry

theorem foldFull_cases (c : Char) : foldFull c = [c.toLower] ∨ (c, foldFull c) ∈ joined := by
  unfold foldFull
  split
  case h_12 => exact .inl rfl
  all_goals exact .inr (by decide)

theorem toLower_cases (c : Char) : c.toLower = c ∨ (c.toNat < 128 ∧ 97 ≤ c.toLower.toNat ∧ c.toLower.toNat < 123) := by
  unfold Char.toLower
  split
  · next hupper =>
    right
    have hlow : 65 ≤ c.val.toNat := hupper.1
    have hhigh : c.val.toNat ≤ 90 := hupper.2
    have hshift : (c.val + ('a'.val - 'A'.val)).toNat = c.val.toNat + 32 := by
      rw [UInt32.toNat_add]
      have hstep : ('a'.val - 'A'.val).toNat = 32 := rfl
      omega
    refine ⟨by change c.val.toNat < 128; omega, ?_, ?_⟩
    · change 97 ≤ (c.val + ('a'.val - 'A'.val)).toNat
      omega
    · change (c.val + ('a'.val - 'A'.val)).toNat < 123
      omega
  · exact .inl rfl

theorem toNat_toLower_lt {c : Char} (hascii : c.toNat < 128) : c.toLower.toNat < 128 := by
  rcases toLower_cases c with heq | ⟨-, -, hlt⟩
  · rwa [heq]
  · omega

theorem isBlank_eq_false_of_toNat {c : Char} (hlow : 97 ≤ c.toNat) (hhigh : c.toNat < 123) : isBlank c = false := by
  rw [Bool.eq_false_iff, Ne, isBlank_iff]
  intro hmem
  simp only [spaces, List.mem_cons, List.not_mem_nil, or_false] at hmem
  omega

@[simp] theorem isBlank_toLower (c : Char) : isBlank c.toLower = isBlank c := by
  rcases toLower_cases c with heq | ⟨hascii, hlow, hhigh⟩
  · rw [heq]
  · by_cases heq : c.toLower = c
    · rw [heq]
    · -- A character that is changed is a capital letter.
      have hupper : 65 ≤ c.val.toNat ∧ c.val.toNat ≤ 90 := by
        by_contra hnot
        exact heq (dif_neg hnot)
      rw [isBlank_eq_false_of_toNat hlow hhigh, eq_comm, Bool.eq_false_iff, Ne, isBlank_iff]
      intro hmem
      simp only [spaces, List.mem_cons, List.not_mem_nil, or_false] at hmem
      have hval : c.toNat = c.val.toNat := rfl
      omega

theorem foldFull_of_ascii {c : Char} (hascii : c.toNat < 128) : foldFull c = [c.toLower] := by
  rcases foldFull_cases c with hfold | hjoined
  · exact hfold
  · have hbeyond := (joined_eq hjoined).2.1
    omega

theorem foldName_of_ascii {cs : List Char} (hascii : ∀ c ∈ cs, c.toNat < 128) : foldName cs = cs.map Char.toLower := by
  induction cs with
  | nil => rfl
  | cons c cs ih =>
      rw [foldName, List.flatMap_cons, foldFull_of_ascii (hascii c List.mem_cons_self), ← foldName,
        ih fun d hd => hascii d (List.mem_cons_of_mem c hd)]
      rfl

theorem foldName_cons (c : Char) (cs : List Char) : foldName (c :: cs) = foldFull c ++ foldName cs := rfl

/-- Folding compares a name in ASCII with the ways to write it. -/
theorem foldName_eq_iff {written name : List Char} (hascii : ∀ c ∈ name, c.toNat < 128) :
    foldName written = foldName name ↔ Spells written name := by
  rw [foldName_of_ascii hascii]
  constructor
  · intro heq
    clear hascii
    induction written generalizing name with
    | nil =>
        obtain rfl := List.map_eq_nil_iff.1 heq.symm
        exact .nil
    | cons c cs ih =>
        rw [foldName_cons] at heq
        obtain ⟨front, ds, rfl, hfront, hrest⟩ := List.map_eq_append_iff.1 heq.symm
        rcases foldFull_cases c with hfold | hjoined
        · rw [hfold] at hfront
          obtain ⟨d, rfl, hcase⟩ := List.map_eq_singleton_iff.1 hfront
          exact .letter hcase.symm (ih hrest.symm)
        · exact .joined hjoined hfront (ih hrest.symm)
  · intro hspells
    induction hspells with
    | nil => rfl
    | @letter c d cs ds hcase _ ih =>
        have hfold : foldFull c = [c.toLower] := by
          rcases foldFull_cases c with hfold | hjoined
          · exact hfold
          · -- A joined character is beyond ASCII, and the letter of the name is not.
            obtain ⟨-, hbeyond, hsame, -⟩ := joined_eq hjoined
            have hlt := toNat_toLower_lt (hascii d List.mem_cons_self)
            rw [← hcase, hsame] at hlt
            omega
        rw [foldName_cons, hfold, ih fun e he => hascii e (List.mem_cons_of_mem d he), hcase]
        rfl
    | joined hjoined hfront _ ih =>
        rw [foldName_cons, (joined_eq hjoined).1, ih fun e he => hascii e (List.mem_append_right _ he), List.map_append,
          hfront]

theorem foldFull_of_isBlank {c : Char} (hblank : isBlank c = true) : foldFull c = [c.toLower] := by
  rcases foldFull_cases c with hfold | hjoined
  · exact hfold
  · rw [(joined_eq hjoined).2.2.2] at hblank
    cases hblank

/-- A way to write a name has no white space at its ends that the name does not have. -/
theorem trimmed_of_foldName_eq {written name : List Char} (hname : Trimmed name)
    (heq : foldName written = name.map Char.toLower) : Trimmed written := by
  constructor
  · rintro c rest rfl
    by_contra hblank
    rw [Bool.not_eq_false] at hblank
    rw [foldName_cons, foldFull_of_isBlank hblank] at heq
    obtain ⟨d, ds, rfl, hcase, -⟩ := List.map_eq_cons_iff.1 heq.symm
    have hhead := hname.1 d ds rfl
    rw [← isBlank_toLower, hcase, isBlank_toLower, hblank] at hhead
    cases hhead
  · rintro rest c rfl
    by_contra hblank
    rw [Bool.not_eq_false] at hblank
    have hfold : foldName (rest ++ [c]) = foldName rest ++ [c.toLower] := by
      unfold foldName
      rw [List.flatMap_append, List.flatMap_singleton, foldFull_of_isBlank hblank]
    rw [hfold] at heq
    obtain ⟨ds, last, rfl, -, hlast⟩ := List.map_eq_append_iff.1 heq.symm
    obtain ⟨d, rfl, hcase⟩ := List.map_eq_singleton_iff.1 hlast
    have hend := hname.2 ds d rfl
    rw [← isBlank_toLower, hcase, isBlank_toLower, hblank] at hend
    cases hend

/-- A text denotes a name exactly if the two are the same after trimming and folding. -/
theorem denotes_iff {written name : String} (hascii : ∀ c ∈ name.toList, c.toNat < 128) (hname : Trimmed name.toList) :
    Denotes written name ↔ foldName (trimChars name.toList) = foldName (trimChars written.toList) := by
  rw [trimChars_of_ends hname, eq_comm]
  constructor
  · rintro ⟨before, middle, behind, hchars, hbefore, hbehind, hspells⟩
    have hfold := (foldName_eq_iff hascii).2 hspells
    have hmiddle : Trimmed middle := trimmed_of_foldName_eq hname (hfold.trans (foldName_of_ascii hascii))
    rw [hchars, trimChars_append (fun c hc => (isBlank_iff c).2 (hbefore c hc))
      (fun c hc => (isBlank_iff c).2 (hbehind c hc)), trimChars_of_ends hmiddle, hfold]
  · intro heq
    obtain ⟨before, behind, hchars, hbefore, hbehind⟩ := exists_trimChars written.toList
    exact ⟨before, _, behind, hchars, fun c hc => (isBlank_iff c).1 (hbefore c hc),
      fun c hc => (isBlank_iff c).1 (hbehind c hc), (foldName_eq_iff hascii).1 heq⟩

end Text
end DoomPatch
