import DoomPatch.Proofs.Flag.Expression
import DoomPatch.Proofs.Text.Bare

/-!
# Reading a listing back

The flags of a word can be listed by name, and a listing is a flag expression again.  Whatever stands between the
names, in whichever case they are written and with whichever openings, reading the expression gives the word back, as
far as the vocabulary has names for its bits.

* `FlagExpression.Lists` — an expression in which tokens stand in order between runs of separators.
* `FlagExpression.tokens_of_lists` — these are its tokens.
* `FlagExpression.tokens_append`, `FlagExpression.parse_append` — two expressions with a separator between them.
* `FlagExpression.Spells` — the ways to write a name, and `meaning?_of_spells` — they all mean the bit.
* `Vocabulary.hasAll_bits`, `Vocabulary.exists_mem_namesFrom` — the bits of a vocabulary, and those that a listing
  names.
* `FlagExpression.parse_listing` — a listing reads back.
-/

namespace DoomPatch

/-! ### Words by their bits -/

namespace Word

theorem hasAll_and {bit : UInt32} (hbit : IsFlag bit) (a b : UInt32) :
    hasAll (a &&& b) bit = (hasAll a bit && hasAll b bit) := by
  obtain ⟨k, hk, rfl⟩ := hbit
  simp only [hasAll_twoPow _ hk, UInt32.toBitVec_and, BitVec.getLsbD_and]

/-- A flag has no flag but itself. -/
theorem eq_of_hasAll_flag {a b : UInt32} (ha : IsFlag a) (hb : IsFlag b) (hall : hasAll a b = true) : a = b := by
  obtain ⟨k, hk, rfl⟩ := ha
  obtain ⟨n, hn, rfl⟩ := hb
  rw [hasAll_twoPow _ hn, BitVec.getLsbD_twoPow] at hall
  obtain rfl : k = n := by simpa [hk] using hall
  rfl

theorem hasAll_self (a : UInt32) : hasAll a a = true := by simp [hasAll]

theorem IsFlag.ne_zero {bit : UInt32} (hbit : IsFlag bit) : bit ≠ 0 := by
  rintro rfl
  have hself := hasAll_zero hbit
  rw [hasAll_self] at hself
  cases hself

/-- Words with the same flags are the same. -/
theorem eq_of_hasAll {a b : UInt32} (hsame : ∀ bit, IsFlag bit → hasAll a bit = hasAll b bit) : a = b := by
  apply UInt32.toBitVec_inj.1
  apply BitVec.eq_of_getLsbD_eq
  intro k hk
  have hbit := hsame _ ⟨k, hk, rfl⟩
  rwa [hasAll_twoPow _ hk, hasAll_twoPow _ hk] at hbit

end Word

/-! ### Tokens between separators -/

namespace FlagExpression

/-- The characters that part tokens. -/
def separators : List Char := ['+', '|', ',', ' ', '\t']

theorem isSeparator_iff {c : Char} : isSeparator c = true ↔ c ∈ separators := by
  simp [isSeparator, separators, or_assoc]

/-- A run of separators, which may be empty. -/
def Gap (cs : List Char) : Prop := ∀ c ∈ cs, c ∈ separators

/-- Characters that can stand for a token: some, and no separator among them. -/
def Solid (cs : List Char) : Prop := cs ≠ [] ∧ ∀ c ∈ cs, c ∉ separators

instance (cs : List Char) : Decidable (Gap cs) :=
  decidable_of_iff (cs.all separators.contains = true) (by simp [Gap])

instance (cs : List Char) : Decidable (Solid cs) :=
  decidable_of_iff ((!cs.isEmpty && cs.all fun c => !separators.contains c) = true) (by simp [Solid])

/-- An expression lists tokens: they stand in order, with runs of separators before, between and behind them.  Only the
runs at both ends may be empty, for what follows a token is a separator or nothing. -/
inductive Lists : List (List Char) → List Char → Prop
  | nil {gap : List Char} (hgap : Gap gap) : Lists [] gap
  | cons {gap token rest : List Char} {ts : List (List Char)} (hgap : Gap gap) (htoken : Solid token)
      (hrest : Lists ts rest) (hparted : ∀ c ∈ rest.head?, c ∈ separators) : Lists (token :: ts) (gap ++ token ++ rest)

/-- A separator before an expression does not count. -/
theorem tokens_separator {c : Char} (hc : c ∈ separators) (rest : List Char) : tokens (c :: rest) = tokens rest := by
  rw [tokens, tokensFrom, if_pos (isSeparator_iff.2 hc)]
  rfl

theorem tokens_gap {gap : List Char} (hgap : Gap gap) (rest : List Char) : tokens (gap ++ rest) = tokens rest := by
  induction gap with
  | nil => rfl
  | cons c gap ih =>
      rw [List.cons_append, tokens_separator (hgap c List.mem_cons_self)]
      exact ih fun c' hc' => hgap c' (List.mem_cons_of_mem c hc')

/-- Characters that are no separators go on with the token that is being read. -/
theorem tokensFrom_append {cs : List Char} (hcs : ∀ c ∈ cs, c ∉ separators) (current rest : List Char) :
    tokensFrom current (cs ++ rest) = tokensFrom (cs.reverse ++ current) rest := by
  induction cs generalizing current with
  | nil => rfl
  | cons c cs ih =>
      have hc : ¬ isSeparator c = true := fun hsep => hcs c List.mem_cons_self (isSeparator_iff.1 hsep)
      rw [List.cons_append, tokensFrom, if_neg hc, ih fun c' hc' => hcs c' (List.mem_cons_of_mem c hc')]
      simp

/-- A separator ends the token, and so does the end of the expression. -/
theorem tokensFrom_parted {rest : List Char} (hparted : ∀ c ∈ rest.head?, c ∈ separators) (current : List Char) :
    tokensFrom current rest = close current ++ tokens rest := by
  cases rest with
  | nil => exact (List.append_nil _).symm
  | cons c rest =>
      have hc : c ∈ separators := hparted c rfl
      rw [tokensFrom, if_pos (isSeparator_iff.2 hc), tokens_separator hc, tokens]

/-- The tokens that an expression lists are its tokens. -/
theorem tokens_of_lists {ts : List (List Char)} {cs : List Char} (hlists : Lists ts cs) : tokens cs = ts := by
  induction hlists with
  | nil hgap =>
      have hall := tokens_gap hgap []
      rwa [List.append_nil] at hall
  | @cons gap token rest ts hgap htoken hrest hparted ih =>
      have hclosed : close (token.reverse ++ []) = [token] := by simp [close, htoken.1]
      rw [List.append_assoc, tokens_gap hgap, tokens, tokensFrom_append htoken.2, tokensFrom_parted hparted, hclosed,
        ih]
      rfl

/-- A separator between two expressions keeps their tokens apart. -/
theorem tokens_append {c : Char} (hc : c ∈ separators) (cs cs' : List Char) :
    tokens (cs ++ c :: cs') = tokens cs ++ tokens cs' := by
  -- The induction is over the first expression, behind any token that is being read.
  have hfrom : ∀ current, tokensFrom current (cs ++ c :: cs') = tokensFrom current cs ++ tokens cs' := by
    induction cs with
    | nil =>
        intro current
        rw [List.nil_append, tokensFrom_parted (by simpa using hc), tokens_separator hc]
        rfl
    | cons d cs ih =>
        intro current
        rw [List.cons_append, tokensFrom, tokensFrom, ih, ih]
        split
        · rw [List.append_assoc]
        · rfl
  exact hfrom []

/-! ### What tokens mean together -/

theorem combine_append (v : Vocabulary) (ts ts' : List (List Char)) :
    combine v (ts ++ ts') =
      ((combine v ts).1 ||| (combine v ts').1, (combine v ts).2 ++ (combine v ts').2) := by
  induction ts with
  | nil => simp [combine]
  | cons token ts ih =>
      rw [List.cons_append, combine, combine, ih]
      cases meaning? v token with
      | none => rfl
      | some word => simp [UInt32.or_assoc]

theorem parse_eq (v : Vocabulary) (expr : String) :
    parse v expr = ((combine v (tokens expr.toList)).1, (combine v (tokens expr.toList)).2.map String.ofList) := rfl

/-- Of two expressions with a separator between them, the words are united and the unknown tokens put together. -/
theorem parse_append (v : Vocabulary) {c : Char} (hc : c ∈ separators) (a b : String) :
    parse v (a ++ String.singleton c ++ b) =
      ((parse v a).1 ||| (parse v b).1, (parse v a).2 ++ (parse v b).2) := by
  have hchars : (a ++ String.singleton c ++ b).toList = a.toList ++ c :: b.toList := by simp
  rw [parse_eq, parse_eq, parse_eq, hchars, tokens_append hc, combine_append, List.map_append]

theorem combine_of_known {v : Vocabulary} {ts : List (List Char)} (hknown : ∀ token ∈ ts, (meaning? v token).isSome) :
    (combine v ts).2 = [] := by
  induction ts with
  | nil => rfl
  | cons token ts ih =>
      obtain ⟨word, hword⟩ := Option.isSome_iff_exists.1 (hknown token List.mem_cons_self)
      rw [combine, hword]
      exact ih fun other hother => hknown other (List.mem_cons_of_mem token hother)

end FlagExpression

/-! ### Names -/

namespace Vocabulary

/-- The vocabularies of the three flag words. -/
def standard : List Vocabulary := [thing, extended, weapon]

/-- All bits that have a name. -/
def bits (v : Vocabulary) : UInt32 := v.entries.foldr (fun m word => m.bit ||| word) 0

/-- A flag is among the bits of a vocabulary exactly if an entry has it. -/
theorem hasAll_bits {bit : UInt32} (hbit : Word.IsFlag bit) (v : Vocabulary) :
    Word.hasAll v.bits bit = true ↔ ∃ m ∈ v.entries, Word.hasAll m.bit bit = true := by
  unfold bits
  induction v.entries with
  | nil => simp [Word.hasAll_zero hbit]
  | cons m entries ih => simp [Word.hasAll_or hbit, ih]

/-- What is listed is the name of a bit that the word has. -/
theorem exists_entry_of_mem_namesFrom {word seen : UInt32} {entries : List Mnemonic} {name : String}
    (hname : name ∈ namesFrom word seen entries) :
    ∃ m ∈ entries, m.name = name ∧ Word.hasAll word m.bit = true := by
  induction entries generalizing seen with
  | nil => cases hname
  | cons e entries ih =>
      rw [namesFrom] at hname
      split at hname
      · next hlisted =>
        rcases List.mem_cons.1 hname with rfl | hname
        · simp only [Bool.and_eq_true] at hlisted
          exact ⟨e, List.mem_cons_self, rfl, hlisted.1.1⟩
        · obtain ⟨m, hm, hrest⟩ := ih hname
          exact ⟨m, List.mem_cons_of_mem e hm, hrest⟩
      · obtain ⟨m, hm, hrest⟩ := ih hname
        exact ⟨m, List.mem_cons_of_mem e hm, hrest⟩

/-- A bit that the word has is listed, under its name or under the first of several, unless it was listed before. -/
theorem exists_mem_namesFrom {word seen : UInt32} {entries : List Mnemonic}
    (hflags : ∀ m ∈ entries, Word.IsFlag m.bit) {m : Mnemonic} (hm : m ∈ entries)
    (hword : Word.hasAll word m.bit = true) (hseen : Word.hasAll seen m.bit = false) :
    ∃ e ∈ entries, e.bit = m.bit ∧ e.name ∈ namesFrom word seen entries := by
  induction entries generalizing seen with
  | nil => cases hm
  | cons e entries ih =>
      have hflag := hflags m hm
      have hrest := fun m' hm' => hflags m' (List.mem_cons_of_mem e hm')
      rw [namesFrom]
      by_cases hsame : e.bit = m.bit
      · refine ⟨e, List.mem_cons_self, hsame, ?_⟩
        rw [if_pos (by simp [hsame, hword, hseen, hflag.ne_zero])]
        exact List.mem_cons_self
      · have hlater : m ∈ entries := (List.mem_cons.1 hm).resolve_left fun heq => hsame (heq ▸ rfl)
        -- Another bit may be listed here, which does not list this one.
        split
        · have hother : Word.hasAll (seen ||| e.bit) m.bit = false := by
            rw [Word.hasAll_or hflag, hseen, Bool.false_or]
            refine Bool.eq_false_iff.2 fun hall => hsame ?_
            exact Word.eq_of_hasAll_flag (hflags e List.mem_cons_self) hflag hall
          obtain ⟨e', he', hbit, hname⟩ := ih hrest hlater hother
          exact ⟨e', List.mem_cons_of_mem e he', hbit, List.mem_cons_of_mem _ hname⟩
        · obtain ⟨e', he', hbit, hname⟩ := ih hrest hlater hseen
          exact ⟨e', List.mem_cons_of_mem e he', hbit, hname⟩

/-- What may stand in front of a name, or nothing. -/
def optionalOpenings : List String := ["", "MF_", "MF2_", "MBF21_"]

/-- A name as it can be told from its bytes. -/
def letters (m : Mnemonic) : List Char := (Text.bytes m.name).map fun b => Char.ofNat b.toNat

/-- What reading the names of a vocabulary takes: each stands for one bit and for no other, starts with a letter, and
has no opening of its own. -/
structure Readable (v : Vocabulary) : Prop where
  isFlag : ∀ m ∈ v.entries, Word.IsFlag m.bit
  unique : ∀ m ∈ v.entries, ∀ e ∈ v.entries, e.name = m.name → e.bit = m.bit
  ascii : ∀ m ∈ v.entries, asciiBytes m.name = true
  letter : ∀ m ∈ v.entries, ((letters m).head?.all fun c => c != '-' && !c.isDigit) = true
  bare : ∀ m ∈ v.entries, (openings.find? fun o => o.isPrefixOf (letters m)) = none

set_option maxRecDepth 4000 in
/-- The names of the three flag words can be read. -/
theorem readable_of_mem_standard {v : Vocabulary} (hv : v ∈ standard) : v.Readable := by
  have hflags : ∀ v ∈ standard, ∀ m ∈ v.entries, ∃ k < 32, m.bit = ⟨BitVec.twoPow 32 k⟩ := by decide
  have hunique : ∀ v ∈ standard, ∀ m ∈ v.entries, ∀ e ∈ v.entries, e.name = m.name → e.bit = m.bit := by decide
  have hascii : ∀ v ∈ standard, ∀ m ∈ v.entries, asciiBytes m.name = true := by decide
  have hletter : ∀ v ∈ standard, ∀ m ∈ v.entries,
      ((letters m).head?.all fun c => c != '-' && !c.isDigit) = true := by decide
  have hbare : ∀ v ∈ standard, ∀ m ∈ v.entries,
      (openings.find? fun o => o.isPrefixOf (letters m)) = none := by decide
  exact ⟨hflags v hv, hunique v hv, hascii v hv, hletter v hv, hbare v hv⟩

namespace Readable

variable {v : Vocabulary} {m : Mnemonic}

theorem toList_name (hv : v.Readable) (hm : m ∈ v.entries) : m.name.toList = letters m :=
  toList_of_ascii (hv.ascii m hm)

/-- Behind any opening the name is what is left. -/
theorem dropOpening_name (hv : v.Readable) (hm : m ∈ v.entries) {opening : String}
    (hopening : opening ∈ optionalOpenings) :
    dropOpening (opening.toList ++ m.name.toList) = m.name.toList := by
  simp only [optionalOpenings, List.mem_cons, List.not_mem_nil, or_false] at hopening
  rcases hopening with rfl | rfl | rfl | rfl
  · have hname : "".toList ++ m.name.toList = letters m := hv.toList_name hm
    unfold dropOpening
    rw [hname, hv.bare m hm, hv.toList_name hm]
  all_goals rfl

end Readable
end Vocabulary

namespace FlagExpression

/-- A token spells a name: letter by letter in either case, and behind an opening or not. -/
def Spells (name : String) (token : List Char) : Prop :=
  ∃ opening ∈ Vocabulary.optionalOpenings, token.map Char.toUpper = opening.toList ++ name.toList

/-- A character whose capital is in ASCII is in ASCII itself. -/
theorem upperChar_of_toUpper {c : Char} (hc : c.toUpper.toNat < 0x80) : Text.upperChar c = c.toUpper := by
  have hascii : c.toNat < 0x80 := by
    unfold Char.toUpper at hc
    split at hc
    · next hlower =>
      have hbound : c.val.toNat ≤ 122 := UInt32.le_iff_toNat_le.1 hlower.2
      change c.val.toNat < 128
      omega
    · exact hc
  unfold Text.upperChar
  rw [if_pos hascii]

variable {v : Vocabulary} {m : Mnemonic} {token : List Char}

theorem names_of_spells (hv : v.Readable) (hm : m ∈ v.entries) (hspells : Spells m.name token) : Names m token := by
  obtain ⟨opening, hopening, htoken⟩ := hspells
  have hopenings : ∀ o ∈ Vocabulary.optionalOpenings, asciiBytes o = true := by decide
  have hascii : ∀ c ∈ opening.toList ++ m.name.toList, c.toNat < 0x80 := by
    intro c hc
    rcases List.mem_append.1 hc with hc | hc
    · exact toNat_lt_of_ascii (hopenings opening hopening) hc
    · exact toNat_lt_of_ascii (hv.ascii m hm) hc
  have hupper : token.map Text.upperChar = token.map Char.toUpper := by
    refine List.map_congr_left fun c hc => upperChar_of_toUpper (hascii _ ?_)
    rw [← htoken]
    exact List.mem_map_of_mem hc
  rw [Names, hupper, htoken, hv.dropOpening_name hm hopening]

/-- However a name is spelled, it means its bit. -/
theorem meaning?_of_spells (hv : v.Readable) (hm : m ∈ v.entries) (hspells : Spells m.name token) :
    meaning? v token = some m.bit := by
  have hnames := names_of_spells hv hm hspells
  have hletter := hv.letter m hm
  rw [← hv.toList_name hm] at hletter
  have hlookup : v.lookup? token = some m.bit := by
    unfold Vocabulary.lookup?
    rw [hnames]
    obtain ⟨e, hfind⟩ : ∃ e, (v.entries.find? fun e => e.name.toList == m.name.toList) = some e :=
      Option.isSome_iff_exists.1 (List.find?_isSome.2 ⟨m, hm, beq_self_eq_true _⟩)
    have hsame : e.name = m.name := String.toList_inj.1 (by simpa using List.find?_some hfind)
    simp only [hfind]
    exact congrArg some (hv.unique m hm e (List.mem_of_find?_eq_some hfind) hsame)
  unfold meaning?
  rw [readNumber?_of_names hletter hnames, hlookup]
  rfl

/-- A listing of the names of a word reads back: whatever their order, their case, their openings and the separators
between them, and however often each is repeated, the word is the listed one as far as its bits have names, and no
token is unknown.  In any two expressions with a separator between them, the words are united and the unknown tokens put
together. -/
theorem parse_listing (hv : v ∈ Vocabulary.standard) (word : UInt32) {spelled : List (List Char)} {expr : String}
    (hlists : Lists spelled expr.toList) (honly : ∀ token ∈ spelled, ∃ name ∈ v.names word, Spells name token)
    (hevery : ∀ name ∈ v.names word, ∃ token ∈ spelled, Spells name token) :
    parse v expr = (word &&& v.bits, []) ∧
      ∀ (a b : String) (c : Char), c ∈ separators →
        parse v (a ++ String.singleton c ++ b) = ((parse v a).1 ||| (parse v b).1, (parse v a).2 ++ (parse v b).2) := by
  have hreadable := Vocabulary.readable_of_mem_standard hv
  -- A listed token means a bit that has a name and that the word has.
  have hmeaning : ∀ token ∈ spelled, ∃ m ∈ v.entries, meaning? v token = some m.bit ∧
      Word.hasAll word m.bit = true := by
    intro token htoken
    obtain ⟨name, hname, hspells⟩ := honly token htoken
    obtain ⟨m, hm, rfl, hword⟩ := Vocabulary.exists_entry_of_mem_namesFrom hname
    exact ⟨m, hm, meaning?_of_spells hreadable hm hspells, hword⟩
  have hunknown : (combine v spelled).2 = [] := by
    refine combine_of_known fun token htoken => ?_
    obtain ⟨m, -, hbit, -⟩ := hmeaning token htoken
    rw [hbit]
    rfl
  have hword : (combine v spelled).1 = word &&& v.bits := by
    refine Word.eq_of_hasAll fun bit hflag => Bool.eq_iff_iff.2 ?_
    rw [hasAll_combine hflag, Word.hasAll_and hflag, Bool.and_eq_true, Vocabulary.hasAll_bits hflag]
    constructor
    · rintro ⟨token, htoken, bits, hbits, hbit⟩
      obtain ⟨m, hm, hmeans, hword⟩ := hmeaning token htoken
      rw [hmeans] at hbits
      cases hbits
      obtain rfl := Word.eq_of_hasAll_flag (hreadable.isFlag m hm) hflag hbit
      exact ⟨hword, m, hm, hbit⟩
    · rintro ⟨hword, m, hm, hbit⟩
      obtain rfl := Word.eq_of_hasAll_flag (hreadable.isFlag m hm) hflag hbit
      obtain ⟨e, he, hsame, hname⟩ :=
        Vocabulary.exists_mem_namesFrom hreadable.isFlag hm hword (Word.hasAll_zero hflag)
      obtain ⟨token, htoken, hspells⟩ := hevery e.name hname
      exact ⟨token, htoken, e.bit, meaning?_of_spells hreadable he hspells, hsame ▸ hbit⟩
  refine ⟨?_, fun a b c hc => parse_append v hc a b⟩
  rw [parse_eq, tokens_of_lists hlists, hword, hunknown, List.map_nil]

/-- Two of three bits have names; one is listed twice, and the other behind it in lower case. -/
theorem parse_listing_boss :
    Vocabulary.extended.names 0x80000201 = ["LOGRAV", "BOSS"] ∧
      parse .extended "mbf21_Boss |\tlograv+BOSS" = (0x80000201 &&& Vocabulary.extended.bits, []) := by
  have hnames : Vocabulary.extended.names 0x80000201 = ["LOGRAV", "BOSS"] := by decide
  have hboss : Spells "BOSS" "mbf21_Boss".toList := ⟨"MBF21_", by decide, by decide⟩
  have hlograv : Spells "LOGRAV" "lograv".toList := ⟨"", by decide, by decide⟩
  have hagain : Spells "BOSS" "BOSS".toList := ⟨"", by decide, by decide⟩
  have hlists : Lists ["mbf21_Boss".toList, "lograv".toList, "BOSS".toList] "mbf21_Boss |\tlograv+BOSS".toList := by
    have hchars : "mbf21_Boss |\tlograv+BOSS".toList =
        [] ++ "mbf21_Boss".toList ++ (" |\t".toList ++ "lograv".toList ++ ("+".toList ++ "BOSS".toList ++ [])) := by
      decide
    rw [hchars]
    have hlast : Lists ["BOSS".toList] ("+".toList ++ "BOSS".toList ++ []) :=
      .cons (by decide) (by decide) (.nil (by decide)) (by simp)
    have hboth : Lists ["lograv".toList, "BOSS".toList]
        (" |\t".toList ++ "lograv".toList ++ ("+".toList ++ "BOSS".toList ++ [])) :=
      .cons (by decide) (by decide) hlast (by simp [separators])
    exact .cons (by decide) (by decide) hboth (by simp [separators])
  refine ⟨hnames, (parse_listing (by simp [Vocabulary.standard]) 0x80000201 hlists ?_ ?_).1⟩
  · rw [hnames]
    simpa using ⟨.inr hboss, .inl hlograv, .inr hagain⟩
  · rw [hnames]
    simpa using ⟨.inr (.inl hlograv), .inl hboss⟩

end FlagExpression
end DoomPatch
