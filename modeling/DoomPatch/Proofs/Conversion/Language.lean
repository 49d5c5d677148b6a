import DoomPatch.Proofs.Conversion.Whole
import DoomPatch.Proofs.Session.Names
import DoomPatch.Proofs.SortedMap
import Mathlib.Data.List.Basic

/-!
# Reading messages back

The lump of messages is read the way the game reads it: behind the head of the block stand assignments
`REFERENCE = "TEXT";`, and a text goes up to the first quote that is not escaped.  What is read from the lump of a
session is what the session has replaced.

* `Language.read?` — the reader, made of `literal?` for one text and `assignment?` for one line.
* `Language.literal?_quote` — whatever follows a quoted text, the text is read back without its carriage returns.
* `Language.assignments?_clauses` — so is a block, if its references are made of letters and digits.
* `Press.convertAll_language` — the lump holds the block of the replaced messages and nothing else.
* `Session.Reachable.exists_texts` — any messages of the table can have been replaced, by any texts.
* `Session.Reachable.language_reads_back` — the lump of a session says what the session has replaced.
-/

namespace DoomPatch
namespace Language

/-! ### The reader -/

/-- The character that an escaped character stands for. -/
def unescaped? : Char → Option Char
  | '"' => some '"'
  | '\\' => some '\\'
  | 'n' => some '\n'
  | _ => none

/-- Reads a text whose quote was opened, up to the first quote that is not escaped, and returns what follows. -/
def literalTail? : List Char → Option (List Char × List Char)
  | [] => none
  | '"' :: rest => some ([], rest)
  | '\\' :: c :: rest => (unescaped? c).bind fun c => (literalTail? rest).map fun r => (c :: r.1, r.2)
  | c :: rest => (literalTail? rest).map fun r => (c :: r.1, r.2)

/-- Reads a text with its quotes. -/
def literal? : List Char → Option (List Char × List Char)
  | '"' :: rest => literalTail? rest
  | _ => none

/-- Reads `REFERENCE = "TEXT";` and the end of the line. -/
def assignment? (cs : List Char) : Option ((String × String) × List Char) := do
  let behind ← (cs.dropWhile Char.isAlphanum).dropPrefix? [' ', '=', ' ']
  let (text, behind) ← literal? behind
  let rest ← behind.dropPrefix? [';', '\n']
  return ((String.ofList (cs.takeWhile Char.isAlphanum), String.ofList text), rest)

theorem length_le_of_dropPrefix? {cs mark rest : List Char} (hdrop : cs.dropPrefix? mark = some rest) :
    rest.length ≤ cs.length := by
  obtain ⟨first, rfl, -⟩ := List.dropPrefix?_eq_some_iff.1 hdrop
  simp

theorem length_lt_of_literalTail? {cs text rest : List Char} (hread : literalTail? cs = some (text, rest)) :
    rest.length < cs.length := by
  fun_induction literalTail? cs generalizing text with
  | case1 => cases hread
  | case2 => cases hread; simp
  | case3 c cs ih =>
      obtain ⟨_, _, hmap⟩ := Option.bind_eq_some_iff.1 hread
      obtain ⟨r, htail, hpair⟩ := Option.map_eq_some_iff.1 hmap
      cases hpair
      have hlen := ih htail
      simp only [List.length_cons]
      omega
  | case4 c cs _ _ ih =>
      obtain ⟨r, htail, hpair⟩ := Option.map_eq_some_iff.1 hread
      cases hpair
      have hlen := ih htail
      simp only [List.length_cons]
      omega

/-- Reading an assignment uses up characters. -/
theorem length_lt_of_assignment? {cs rest : List Char} {e : String × String} (hread : assignment? cs = some (e, rest)) :
    rest.length < cs.length := by
  simp only [assignment?, Option.bind_eq_bind, Option.bind_eq_some_iff] at hread
  obtain ⟨behind, hmark, ⟨text, behind'⟩, htext, rest', hend, hpair⟩ := hread
  cases hpair
  have hdropped : (cs.dropWhile Char.isAlphanum).length ≤ cs.length :=
    (List.dropWhile_suffix Char.isAlphanum).length_le
  have hbehind := length_le_of_dropPrefix? hmark
  have hrest : rest.length ≤ behind'.length := length_le_of_dropPrefix? hend
  -- The bounds on what follows the marks are not strict; the text is what uses up characters.
  have htail : behind'.length < behind.length := by
    cases behind with
    | nil => cases htext
    | cons c behind =>
        by_cases hquote : c = '"'
        · subst hquote
          have := length_lt_of_literalTail? htext
          simp only [List.length_cons]
          omega
        · simp [literal?, hquote] at htext
  omega

/-- Reads assignments up to the empty line behind the last one. -/
def assignments? (cs : List Char) : Option (List (String × String)) :=
  if cs = ['\n'] then some []
  else
    match hread : assignment? cs with
    | none => none
    | some (e, rest) =>
        have := length_lt_of_assignment? hread
        (assignments? rest).map (e :: ·)
termination_by cs.length

/-- Reads a lump of messages.  A lump that was never opened is empty. -/
def read? (lump : String) : Option (List (String × String)) :=
  if lump = "" then some []
  else (lump.toList.dropPrefix? "<LANGUAGES>\n\n[ENGLISH]\n".toList).bind assignments?

/-- A text without its carriage returns. -/
def withoutReturns (text : String) : String := String.ofList (text.toList.filter (· != '\r'))

/-! ### Quoted texts -/

theorem filter_return_cons (c : Char) (cs : List Char) :
    (c :: cs).filter (· != '\r') = (if c = '\r' then [] else [c]) ++ cs.filter (· != '\r') := by
  by_cases hreturn : c = '\r' <;> simp [hreturn]

/-- What a character is written as is read as the character, or as nothing if it is a carriage return. -/
theorem literalTail?_quoteChar (c : Char) (cs : List Char) :
    literalTail? (Definition.quoteChar c ++ cs) =
      (literalTail? cs).map fun r => ((if c = '\r' then [] else [c]) ++ r.1, r.2) := by
  unfold Definition.quoteChar
  split
  · rfl
  · rfl
  · rfl
  · simp
  · next hquote hback hline hreturn =>
    rw [if_neg hreturn, List.singleton_append, literalTail?]
    · rfl
    · exact hquote
    · exact fun _ _ hslash => (hback hslash).elim

/-- The characters of a text, quoted one by one, are read back up to the quote that closes them. -/
theorem literalTail?_flatMap (cs rest : List Char) :
    literalTail? (cs.flatMap Definition.quoteChar ++ '"' :: rest) = some (cs.filter (· != '\r'), rest) := by
  induction cs with
  | nil => rfl
  | cons c cs ih =>
      rw [List.flatMap_cons, List.append_assoc, literalTail?_quoteChar, ih, filter_return_cons]
      rfl

/-- Whatever follows a quoted text, the text is read back without its carriage returns. -/
theorem literal?_quote (text : String) (rest : List Char) :
    literal? ((Definition.quote text).toList ++ rest) = some ((withoutReturns text).toList, rest) := by
  unfold Definition.quote withoutReturns
  rw [String.toList_ofList, String.toList_ofList, ← literalTail?_flatMap]
  simp [literal?]

/-- A quoted text stays on its line. -/
theorem newline_not_mem_quote (text : String) : '\n' ∉ (Definition.quote text).toList := by
  have hchar : ∀ c, '\n' ∉ Definition.quoteChar c := by
    intro c
    unfold Definition.quoteChar
    split <;> simp_all [eq_comm]
  unfold Definition.quote
  simp [hchar]

/-! ### Blocks -/

/-- A reference is a word if it has letters and digits only. -/
def IsWord (ref : String) : Prop := ∀ c ∈ ref.toList, c.isAlphanum = true

theorem toList_clause (ref text : String) (rest : List Char) :
    (Clause.text ⟨ref, Definition.quote text⟩).toList ++ rest =
      ref.toList ++ ' ' :: '=' :: ' ' :: ((Definition.quote text).toList ++ ([';', '\n'] ++ rest)) := by
  show (ref ++ " = " ++ Definition.quote text ++ ";\n").toList ++ rest = _
  simp

/-- The clause of a message is read back, whatever follows it. -/
theorem assignment?_clause {ref : String} (href : IsWord ref) (text : String) (rest : List Char) :
    assignment? ((Clause.text ⟨ref, Definition.quote text⟩).toList ++ rest) =
      some ((ref, withoutReturns text), rest) := by
  -- The reference ends at the blank before the equals sign.
  have hspan : ∀ behind : List Char, (ref.toList ++ ' ' :: behind).takeWhile Char.isAlphanum = ref.toList ∧
      (ref.toList ++ ' ' :: behind).dropWhile Char.isAlphanum = ' ' :: behind := by
    intro behind
    have hblank : ¬ (' ' : Char).isAlphanum = true := by decide
    constructor
    · rw [List.takeWhile_append_of_pos href, List.takeWhile_cons_of_neg hblank, List.append_nil]
    · rw [List.dropWhile_append_of_pos href, List.dropWhile_cons_of_neg hblank]
  unfold assignment?
  rw [toList_clause, (hspan _).1, (hspan _).2]
  have hequals : ∀ behind : List Char, (' ' :: '=' :: ' ' :: behind).dropPrefix? [' ', '=', ' '] = some behind :=
    fun _ => by simp [List.dropPrefix?]
  have hend : ([';', '\n'] ++ rest).dropPrefix? [';', '\n'] = some rest := by simp [List.dropPrefix?]
  simp only [Option.bind_eq_bind, Option.bind_some, hequals, literal?_quote, hend, String.ofList_toList]
  rfl

/-- A block of messages is read back, if its references are words. -/
theorem assignments?_clauses {texts : List (String × String)} (hrefs : ∀ e ∈ texts, IsWord e.1) :
    assignments? (String.join ((LanguageDefinition.block texts).clauses.map Clause.text) ++ "\n").toList =
      some (texts.map fun e => (e.1, withoutReturns e.2)) := by
  induction texts with
  | nil =>
      rw [assignments?, if_pos]
      · rfl
      · simp [LanguageDefinition.block]
  | cons e texts ih =>
      have hclauses : (String.join ((LanguageDefinition.block (e :: texts)).clauses.map Clause.text) ++ "\n").toList =
          (Clause.text ⟨e.1, Definition.quote e.2⟩).toList ++
            (String.join ((LanguageDefinition.block texts).clauses.map Clause.text) ++ "\n").toList := by
        simp [LanguageDefinition.block]
      have hread := assignment?_clause (hrefs e List.mem_cons_self) e.2
        (String.join ((LanguageDefinition.block texts).clauses.map Clause.text) ++ "\n").toList
      rw [hclauses, assignments?, if_neg]
      · split
        · next hnone => cases hnone.symm.trans hread
        · next e' rest hsome =>
          cases hsome.symm.trans hread
          rw [ih fun e he => hrefs e (List.mem_cons_of_mem _ he)]
          rfl
      · -- There is a blank in the line of a clause, and none in the line that ends the block.
        rw [toList_clause]
        intro hempty
        have hblank : ' ' ∈ ['\n'] := by
          rw [← hempty]
          simp
        exact absurd hblank (by decide)

/-- The lump of a block of messages is read back, if the references are words. -/
theorem read?_block {texts : List (String × String)} (hrefs : ∀ e ∈ texts, IsWord e.1) :
    read? (LumpKind.language.header ++ (LanguageDefinition.block texts).text) =
      some (texts.map fun e => (e.1, withoutReturns e.2)) := by
  have hhead : (LumpKind.language.header ++ (LanguageDefinition.block texts).text).toList =
      "<LANGUAGES>\n\n[ENGLISH]\n".toList ++
        (String.join ((LanguageDefinition.block texts).clauses.map Clause.text) ++ "\n").toList := by
    show ("<LANGUAGES>\n\n" ++ ("[ENGLISH]\n" ++ _ ++ "\n")).toList = _
    simp
  have hopened : LumpKind.language.header ++ (LanguageDefinition.block texts).text ≠ "" := by
    intro hempty
    rw [hempty] at hhead
    simp at hhead
  unfold read?
  rw [if_neg hopened, hhead, List.dropPrefix?_append_of_beq _ BEq.rfl, Option.bind_some, assignments?_clauses hrefs]

end Language

/-! ### The lump -/

theorem Baseline.isWord_ref {ref : String} (href : ref ∈ phrases.map (·.ref)) : Language.IsWord ref := by
  have hbytes : ∀ phrase ∈ phrases, asciiBytes phrase.ref = true ∧
      ((Text.bytes phrase.ref).map fun b => Char.ofNat b.toNat).all Char.isAlphanum = true := by decide
  obtain ⟨phrase, hphrase, rfl⟩ := List.mem_map.1 href
  obtain ⟨hascii, hword⟩ := hbytes phrase hphrase
  rw [← toList_of_ascii hascii] at hword
  exact List.all_eq_true.1 hword

/-- The mnemonics of the table lead to their references. -/
theorem Baseline.mnemonicRef?_mnemonic : ∀ phrase ∈ phrases, mnemonicRef? phrase.mnemonic = some phrase.ref := by
  decide

namespace Press

open Buffer

/-- A step that writes at most to one lump leaves the others alone. -/
theorem find?_of_eq_or_write {p q : Press} {k k' : LumpKind} (hstep : q = p ∨ ∃ text, q = p.write k text)
    (hne : k' ≠ k) : q.buffer.find? k' = p.buffer.find? k' := by
  rcases hstep with rfl | ⟨text, rfl⟩
  · rfl
  · show (p.buffer.write k text).find? k' = _
    rw [find?_write, if_neg hne]

/-- Converting everything writes the block of the replaced messages to their lump, and opens it only for that. -/
theorem convertAll_language {s : Session} (hs : Session.Reachable s) :
    ∃ q, Press.convertAll {} { session := s } = (q, none) ∧
      q.buffer.find? .language =
        if s.texts.isEmpty then none
        else some (LumpKind.language.header ++ (LanguageDefinition.block s.texts.entries).text) := by
  obtain ⟨ds, hdrafts, hfits, -, -, hnone⟩ := hs.exists_sorted_drafts
  obtain ⟨q, pieces, hq, hemits, htexts⟩ := publishAll_emits {} hfits
  refine ⟨((q.convertSounds s).convertLanguage s).convertTriggers { session := s }, ?_, ?_⟩
  · unfold convertAll
    rw [hdrafts, hq]
  · -- Neither entities nor sounds nor triggers have to do with the lump.
    have hentities : q.buffer.find? .language = none := by
      have hbuffer : q.buffer = ({} : Buffer).writeAll pieces := hemits
      rw [hbuffer, find?_writeAll, htexts .language (by decide),
        hnone .language (by decide) (by decide) (by decide), List.map_nil, if_pos rfl]
      rfl
    have hbefore := (find?_of_eq_or_write (q.convertSounds_step s) (by decide : LumpKind.language ≠ .sounds)).trans
      hentities
    rw [find?_of_eq_or_write (convertTriggers_step _ _) (by decide), convertLanguage]
    split
    · exact hbefore
    · show ((q.convertSounds s).buffer.write .language _).find? .language = _
      rw [find?_write, if_pos rfl, hbefore, Option.getD_none]

end Press

namespace Session

variable {s : Session}

/-- Messages of the table can be replaced one after the other. -/
theorem Reachable.exists_texts (hs : Reachable s) (texts : List (String × String))
    (hrefs : ∀ e ∈ texts, e.1 ∈ Baseline.phrases.map (·.ref)) :
    ∃ s', Reachable s' ∧ s'.texts = texts.foldl (fun m e => m.insert e.1 e.2) s.texts := by
  -- Each message is replaced through its mnemonic, on top of what was replaced before.
  induction texts generalizing s with
  | nil => exact ⟨s, hs, rfl⟩
  | cons e texts ih =>
      obtain ⟨phrase, hphrase, href⟩ := List.mem_map.1 (hrefs e List.mem_cons_self)
      have happly : s.apply (.phrase phrase.mnemonic e.2) = .ok (s.setText e.1 e.2) := by
        rw [Session.apply, editPhrase, Baseline.mnemonicRef?_mnemonic phrase hphrase, href]
      exact ih (hs.apply happly) fun e he => hrefs e (List.mem_cons_of_mem _ he)

/-- The lump of messages says what a session has replaced.  Read the way the game reads it, it gives the references in
ascending order, each with its text, which lacks nothing but its carriage returns; any messages of the table can have
been replaced, by any texts.  A quoted text stays on its line and ends at its own last quote, whatever follows. -/
theorem Reachable.language_reads_back (hs : Reachable s) :
    (∃ q, Press.convertAll {} { session := s } = (q, none) ∧
      Language.read? (q.buffer.text .language) =
        some (s.texts.entries.map fun e => (e.1, Language.withoutReturns e.2))) ∧
    s.texts.keys.Pairwise (· < ·) ∧
    (∀ texts : SortedMap String String, (∀ ref ∈ texts.keys, ref ∈ Baseline.phrases.map (·.ref)) →
      ∃ s', Reachable s' ∧ s'.texts = texts) ∧
    ∀ text : String, '\n' ∉ (Definition.quote text).toList ∧
      ∀ rest, Language.literal? ((Definition.quote text).toList ++ rest) =
        some ((Language.withoutReturns text).toList, rest) := by
  refine ⟨?_, ?_, ?_, fun text => ⟨Language.newline_not_mem_quote text, Language.literal?_quote text⟩⟩
  · obtain ⟨q, hq, hlump⟩ := Press.convertAll_language hs
    have hwords : ∀ e ∈ s.texts.entries, Language.IsWord e.1 := fun e he =>
      Baseline.isWord_ref (hs.named.fair.texts e.1 e.2 (SortedMap.get?_eq_some_iff.2 he))
    refine ⟨q, hq, ?_⟩
    unfold Buffer.text
    rw [hlump]
    split
    · next hempty =>
      rw [SortedMap.isEmpty, List.isEmpty_iff] at hempty
      rw [hempty]
      rfl
    · exact Language.read?_block hwords
  · exact s.texts.keys_pairwise_lt.imp compareOfLessAndEq_eq_lt.1
  · intro texts hrefs
    obtain ⟨s', hs', htexts⟩ := (Reachable.new 21).exists_texts texts.entries fun e he =>
      hrefs e.1 (List.mem_map_of_mem he)
    exact ⟨s', hs', htexts.trans (SortedMap.ofList_entries texts)⟩

/-- A text with an escaped quote and a carriage return, and one that looks like the end of its own line and the start
of another. -/
theorem language_reads_back_hard :
    ∃ s q, s = patched 21 [.phrase "HUSTR_1" "x\";\nLevel2 = \"y", .phrase "GOTARMOR" "\\\"\r\n\\"] ∧
      Press.convertAll {} { session := s } = (q, none) ∧
      Language.read? (q.buffer.text .language) =
        some [("GotArmour", "\\\"\n\\"), ("Level1", "x\";\nLevel2 = \"y")] := by
  have hs := reachable_patched 21 [.phrase "HUSTR_1" "x\";\nLevel2 = \"y", .phrase "GOTARMOR" "\\\"\r\n\\"]
  obtain ⟨⟨q, hq, hread⟩, -⟩ := hs.language_reads_back
  refine ⟨_, q, rfl, hq, hread.trans ?_⟩
  decide

end Session
end DoomPatch
