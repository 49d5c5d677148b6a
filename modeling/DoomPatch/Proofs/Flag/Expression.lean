import DoomPatch.Flag.Expression

/-!
# Which tokens set a flag

A flag expression is the union of what its tokens mean, so a single bit of its word comes from one of the tokens.  For
the four flags of things that are meant to be set by name, such a token is the name or a number.

* `Word.IsFlag`, `hasAll_or`, `hasAll_and_not` — words with a single bit, and how unions and masks have them.
* `FlagExpression.hasAll_combine` — a flag of an expression is a flag of a token.
* `ThingFlag.byName`, `FlagExpression.Names` — the flags with a name of their own, and the tokens that are the name.
* `FlagExpression.hasAll_parse_iff` — the tokens that set one of these flags.
-/

namespace DoomPatch

/-! ### Words with a single bit -/

namespace Word

/-- A word with a single bit. -/
def IsFlag (bit : UInt32) : Prop := ∃ k < 32, bit = ⟨BitVec.twoPow 32 k⟩

theorem hasAll_twoPow (word : UInt32) {k : Nat} (hk : k < 32) :
    hasAll word ⟨BitVec.twoPow 32 k⟩ = word.toBitVec.getLsbD k := by
  have hand : (word &&& ⟨BitVec.twoPow 32 k⟩ : UInt32) = ⟨word.toBitVec &&& BitVec.twoPow 32 k⟩ := rfl
  have hne : (⟨0#32⟩ : UInt32) ≠ ⟨BitVec.twoPow 32 k⟩ := by
    intro heq
    have hbit := congrArg (fun word : UInt32 => word.toBitVec.getLsbD k) heq
    simp [hk] at hbit
  unfold hasAll
  rw [hand, BitVec.and_twoPow]
  cases word.toBitVec.getLsbD k with
  | true => simp
  | false => simpa using hne

theorem hasAll_or {bit : UInt32} (hbit : IsFlag bit) (a b : UInt32) :
    hasAll (a ||| b) bit = (hasAll a bit || hasAll b bit) := by
  obtain ⟨k, hk, rfl⟩ := hbit
  simp only [hasAll_twoPow _ hk, UInt32.toBitVec_or, BitVec.getLsbD_or]

theorem hasAll_zero {bit : UInt32} (hbit : IsFlag bit) : hasAll 0 bit = false := by
  obtain ⟨k, hk, rfl⟩ := hbit
  simp [hasAll_twoPow _ hk]

/-- What is masked is not there. -/
theorem hasAll_and_not {bit mask : UInt32} (hbit : IsFlag bit) (hmask : hasAll mask bit = true) (word : UInt32) :
    hasAll (word &&& ~~~mask) bit = false := by
  obtain ⟨k, hk, rfl⟩ := hbit
  rw [hasAll_twoPow _ hk] at hmask ⊢
  simp [hmask]

end Word

/-! ### Flags that are set by name -/

/-- The flags that no number in a field sets, with their names. -/
def ThingFlag.byName : List Mnemonic :=
  [⟨"TOUCHY", touchy⟩, ⟨"BOUNCES", bounces⟩, ⟨"FRIEND", friend⟩, ⟨"TRANSLUCENT", translucent⟩]

namespace FlagExpression

/-- A flag of an expression is a flag of what one of its tokens means. -/
theorem hasAll_combine {bit : UInt32} (hbit : Word.IsFlag bit) (v : Vocabulary) (ts : List (List Char)) :
    Word.hasAll (combine v ts).1 bit = true ↔
      ∃ token ∈ ts, ∃ word, meaning? v token = some word ∧ Word.hasAll word bit = true := by
  induction ts with
  | nil => simp [combine, Word.hasAll_zero hbit]
  | cons token ts ih =>
      cases hmeaning : meaning? v token with
      | some word => simp [combine, hmeaning, Word.hasAll_or hbit, ih]
      | none => simp [combine, hmeaning, ih]

/-- A token is the name of a flag, in either case, and with an opening or not. -/
def Names (m : Mnemonic) (token : List Char) : Prop := Vocabulary.dropOpening (token.map Text.upperChar) = m.name.toList

theorem byName_checked : ∀ m ∈ ThingFlag.byName,
    (∀ e ∈ Vocabulary.thing.entries, Word.hasAll e.bit m.bit = true ↔ e.name = m.name) ∧
      (∃ e ∈ Vocabulary.thing.entries, e.name = m.name) ∧
      Word.hasAll ThingFlag.mnemonicOnly m.bit = true ∧
      (m.name.toList.head?.all fun c => c != '-' && !c.isDigit) = true := by
  decide

theorem isFlag_of_mem_byName {m : Mnemonic} (hm : m ∈ ThingFlag.byName) : Word.IsFlag m.bit := by
  simp only [ThingFlag.byName, List.mem_cons, List.not_mem_nil, or_false] at hm
  rcases hm with rfl | rfl | rfl | rfl
  · exact ⟨28, by decide, by decide⟩
  · exact ⟨29, by decide, by decide⟩
  · exact ⟨30, by decide, by decide⟩
  · exact ⟨31, by decide, by decide⟩

variable {m : Mnemonic} {token : List Char}

/-- A mnemonic means the flag exactly if it is its name. -/
theorem lookup?_thing_iff (hm : m ∈ ThingFlag.byName) :
    (∃ word, Vocabulary.thing.lookup? token = some word ∧ Word.hasAll word m.bit = true) ↔ Names m token := by
  obtain ⟨hentries, ⟨own, hown, hname⟩, -, -⟩ := byName_checked m hm
  unfold Names Vocabulary.lookup?
  constructor
  · rintro ⟨word, hlookup, hword⟩
    obtain ⟨e, hfind, rfl⟩ := Option.map_eq_some_iff.1 hlookup
    have hkey := List.find?_some hfind
    rw [← (hentries e (List.mem_of_find?_eq_some hfind)).1 hword]
    exact (eq_of_beq hkey).symm
  · intro hkey
    rw [hkey]
    obtain ⟨e, hfind⟩ : ∃ e, (Vocabulary.thing.entries.find? fun e => e.name.toList == m.name.toList) = some e := by
      refine Option.isSome_iff_exists.1 (List.find?_isSome.2 ⟨own, hown, ?_⟩)
      rw [hname, beq_self_eq_true]
    have hsame : e.name = m.name := String.toList_inj.1 (by simpa using List.find?_some hfind)
    exact ⟨e.bit, congrArg (Option.map (·.bit)) hfind, (hentries e (List.mem_of_find?_eq_some hfind)).2 hsame⟩

/-- Only a minus sign or a digit starts a number. -/
theorem readNumber?_cons_eq_none {c : Char} (hsign : c ≠ '-') (hdigit : c.isDigit = false) (rest : List Char) :
    readNumber? (c :: rest) = none := by
  unfold readNumber?
  split
  · next heq =>
    cases heq
    cases hdigit
  · next heq =>
    cases heq
    rw [if_neg (by simp [hsign, hdigit])]
  · rfl

theorem dropOpening_cons {c : Char} (hc : c ≠ 'M') (rest : List Char) :
    Vocabulary.dropOpening (c :: rest) = c :: rest := by
  have hnone : (Vocabulary.openings.find? fun o => o.isPrefixOf (c :: rest)) = none := by
    simp [Vocabulary.openings, List.isPrefixOf, hc.symm]
  unfold Vocabulary.dropOpening
  rw [hnone]

theorem upperChar_of_isDigit {c : Char} (hc : c = '-' ∨ c.isDigit = true) : Text.upperChar c = c := by
  rcases hc with rfl | hdigit
  · rfl
  · have hbounds : 48 ≤ c.val.toNat ∧ c.val.toNat ≤ 57 := by
      simpa [Char.isDigit, UInt32.le_iff_toNat_le] using hdigit
    have hascii : c.toNat < 0x80 := by
      change c.val.toNat < 128
      omega
    unfold Text.upperChar Char.toUpper
    rw [if_pos hascii, dif_neg]
    rintro ⟨hlow, -⟩
    have hletter : 97 ≤ c.val.toNat := UInt32.le_iff_toNat_le.1 hlow
    omega

/-- A name is no number, unless it starts like one. -/
theorem readNumber?_of_names (hletter : (m.name.toList.head?.all fun c => c != '-' && !c.isDigit) = true)
    (hnames : Names m token) : readNumber? token = none := by
  cases token with
  | nil => rfl
  | cons c rest =>
      by_cases hstart : c = '-' ∨ c.isDigit = true
      · have hM : c ≠ 'M' := by
          rintro rfl
          exact absurd hstart (by decide)
        rw [Names, List.map_cons, upperChar_of_isDigit hstart, dropOpening_cons hM] at hnames
        rw [← hnames] at hletter
        have hplain : c ≠ '-' ∧ c.isDigit = false := by simpa using hletter
        rcases hstart with hsign | hdigit
        · exact absurd hsign hplain.1
        · rw [hplain.2] at hdigit
          cases hdigit
      · rw [not_or] at hstart
        exact readNumber?_cons_eq_none hstart.1 (by simpa using hstart.2) rest

/-- The tokens that set a flag: its name, and the numbers that have it. -/
theorem hasAll_parse_iff (hm : m ∈ ThingFlag.byName) (expr : String) :
    Word.hasAll (parse .thing expr).1 m.bit = true ↔
      ∃ token ∈ tokens expr.toList,
        Names m token ∨ ∃ word, readNumber? token = some word ∧ Word.hasAll word m.bit = true := by
  have hparse : (parse .thing expr).1 = (combine .thing (tokens expr.toList)).1 := rfl
  rw [hparse, hasAll_combine (isFlag_of_mem_byName hm)]
  refine exists_congr fun token => and_congr_right fun _ => ?_
  unfold meaning?
  cases hnumber : readNumber? token with
  | none => simpa using lookup?_thing_iff hm
  | some word =>
      have hnames : ¬ Names m token := by
        intro hnames
        rw [readNumber?_of_names (byName_checked m hm).2.2.2 hnames] at hnumber
        cases hnumber
      simp [hnames]

end FlagExpression
end DoomPatch
