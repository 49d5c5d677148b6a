import Std.Data.String.ToInt
import DoomPatch.Definition.View
import DoomPatch.Proofs.Baseline.Tables
import DoomPatch.Proofs.Text.Bare

/-!
# Facts about the names of the tables

The names of things, weapons and sounds, and those made up for numbers beyond the tables: none has a bracket, and
within each kind no two are the same.  Each table is checked once, by the bytes of its names.

* `nodup_of_fresh`, `eq_of_at?` — entries that can be told apart by small numbers.
* `things_checked`, `weapons_checked`, `sounds_checked` — what is checked of the tables.
* `bare_thing?`, `bare_weapon?`, `bare_soundRef` — no name has a bracket.
* `length_sprite?`, `bracket_not_mem_extraSpriteName` — the names of sprites are short, or have no bracket.
* `thingName_inj`, `weapon?_inj`, `soundRef_inj` — different numbers have different names.
-/

namespace DoomPatch

theorem Thing.bare_ddfName {t : Thing} (hname : Bare t.name) : Bare t.ddfName := by
  unfold Thing.ddfName
  split
  · next rest heq =>
    unfold Bare at hname ⊢
    rw [heq] at hname
    rw [String.toList_ofList]
    exact ⟨fun hmem => hname.1 (List.mem_cons_of_mem _ hmem), fun hmem => hname.2 (List.mem_cons_of_mem _ hmem)⟩
  · exact hname

/-- Small numbers are their own words. -/
theorem Word.wrap64_of_small {n : Int} (hlow : 0 ≤ n) (hhigh : n ≤ Limits.extendedMax + 1) : wrap64 n = n := by
  have hmax : Limits.extendedMax = 32767 := rfl
  unfold wrap64
  rw [Int.bmod_eq_of_le] <;> simp [UInt64.size] <;> omega

namespace Baseline

/-! ### What is checked of the tables -/

/-- Whether no number of a list comes a second time, where those with a bit in `seen` came before. -/
def fresh : Nat → List Nat → Bool
  | _, [] => true
  | seen, n :: rest => !seen.testBit n && fresh (seen ||| 1 <<< n) rest

theorem nodup_of_fresh {seen : Nat} {numbers : List Nat} (hfresh : fresh seen numbers = true) :
    numbers.Nodup ∧ ∀ n ∈ numbers, seen.testBit n = false := by
  induction numbers generalizing seen with
  | nil => simp
  | cons n rest ih =>
      rw [fresh, Bool.and_eq_true, Bool.not_eq_true'] at hfresh
      obtain ⟨hnodup, hrest⟩ := ih hfresh.2
      have hlater : ∀ m ∈ rest, seen.testBit m = false ∧ m ≠ n := by
        intro m hm
        have hbit := hrest m hm
        rw [Nat.testBit_or, Bool.or_eq_false_iff, Nat.one_shiftLeft, Nat.testBit_two_pow] at hbit
        exact ⟨hbit.1, fun heq => by simp [heq] at hbit⟩
      refine ⟨List.nodup_cons.2 ⟨fun hmem => (hlater n hmem).2 rfl, hnodup⟩, fun m hm => ?_⟩
      rcases List.mem_cons.1 hm with rfl | hm
      · exact hfresh.1
      · exact (hlater m hm).1

/-- In a table whose entries can be told apart, so can the numbers. -/
theorem eq_of_at? {α : Type} {table : Array α} {f : α → Nat} (hfresh : fresh 0 (table.toList.map f) = true) {i j : Int}
    {a b : α} (hi : at? table i = some a) (hj : at? table j = some b) (heq : f a = f b) : i = j := by
  have hboundi := bounds_of_at? hi
  have hboundj := bounds_of_at? hj
  unfold at? at hi hj
  rw [if_pos hboundi.1] at hi
  rw [if_pos hboundj.1] at hj
  have hgeti : (table.toList.map f)[i.toNat]? = some (f a) := by simp [hi]
  have hgetj : (table.toList.map f)[j.toNat]? = some (f b) := by simp [hj]
  have hnat : i.toNat = j.toNat :=
    (List.getElem?_inj (by simp; omega) (nodup_of_fresh hfresh).1).1 (by rw [hgeti, hgetj, heq])
  omega

/-- A small number made from codes.  The names of a table are told apart by a suitable modulus. -/
def signature (modulus : Nat) (codes : List Nat) : Nat := codes.foldl (fun n code => n * 256 + code) 0 % modulus

set_option maxRecDepth 4000 in
theorem things_checked :
    (∀ t ∈ things.toList, bareBytes t.name = true ∧ (Text.bytes t.name).take 3 ≠ [68, 69, 72]) ∧
      fresh 0 (things.toList.map fun t => signature 2413 ((Text.bytes t.name).map (·.toNat))) = true := by
  decide

theorem weapons_checked :
    (∀ w ∈ weapons.toList, bareBytes w.name = true) ∧
      fresh 0 (weapons.toList.map fun w => signature 2413 ((Text.bytes w.name).map (·.toNat))) = true := by
  decide

/-- The characters of the name of a sound in definitions. -/
def soundLetters (snd : Sound) : List Char := snd.name.toList.map Text.upperChar

/-- The same characters, made from the bytes of the name. -/
def soundCodes (snd : Sound) : List Char := (Text.bytes snd.name).map fun b => Text.upperChar (Char.ofNat b.toNat)

set_option maxRecDepth 4000 in
theorem sounds_checked :
    (∀ snd ∈ sounds.toList, asciiBytes snd.name = true ∧
      '(' ∉ soundCodes snd ∧ ')' ∉ soundCodes snd ∧ ¬ ['F', 'R', 'E'] <+: soundCodes snd) ∧
      fresh 0 (sounds.toList.map fun snd => signature 2413 ((soundCodes snd).map (·.toNat))) = true := by
  decide

theorem soundLetters_of_sound? {id : Int} {snd : Sound} (hbase : sound? id = some snd) :
    soundLetters snd = soundCodes snd := by
  have hascii := (sounds_checked.1 snd (mem_of_at? hbase)).1
  unfold soundLetters soundCodes
  rw [toList_of_ascii hascii, List.map_map]
  rfl

/-! ### Brackets -/

theorem bare_thing? {id : Int} {t : Thing} (hbase : thing? id = some t) : Bare t.name :=
  bare_of_bytes (things_checked.1 t (mem_of_at? hbase)).1

theorem bare_weapon? {id : Int} {w : Weapon} (hbase : weapon? id = some w) : Bare w.name :=
  bare_of_bytes (weapons_checked.1 w (mem_of_at? hbase))

theorem bare_extraThingName (id : Int) : Bare (extraThingName id) :=
  bare_append (bare_of_bytes (by decide)) (bare_toString _)

theorem bare_extraSoundName (id : Int) : Bare (extraSoundName id) :=
  bare_append (bare_of_bytes (by decide)) (bare_padInt 3 _)

theorem soundLetters_plain {id : Int} {snd : Sound} (hbase : sound? id = some snd) :
    '(' ∉ soundLetters snd ∧ ')' ∉ soundLetters snd ∧ ¬ ['F', 'R', 'E'] <+: soundLetters snd := by
  rw [soundLetters_of_sound? hbase]
  exact (sounds_checked.1 snd (mem_of_at? hbase)).2

theorem bare_soundRef (id : Int) : Bare (View.soundRef id) := by
  unfold View.soundRef
  split
  · next snd hbase =>
    have hplain := soundLetters_plain hbase
    unfold Bare Text.upper
    rw [String.toList_ofList]
    exact ⟨hplain.1, hplain.2.1⟩
  · exact bare_extraSoundName id

set_option maxRecDepth 4000 in
theorem length_sprite? {id : Int} {name : String} (hbase : sprite? id = some name) : name.toList.length ≤ 4 := by
  have hall : ∀ name ∈ sprites.toList, name.utf8ByteSize = 4 := by decide
  have hsize := hall name (mem_of_at? hbase)
  have hle := length_le_utf8ByteSize name
  omega

/-- A made-up name of a sprite has capital digits of base 36, the `S` among them. -/
theorem mem_extraSpriteName {id : Int} {c : Char} (hc : c ∈ (extraSpriteName id).toList) :
    c = '-' ∨ ∃ d < 36, c = (Numeral.digitChar d).toUpper := by
  unfold extraSpriteName at hc
  rw [String.toList_ofList] at hc
  rcases List.mem_cons.1 hc with rfl | hmem
  · exact .inr ⟨28, by decide, by decide⟩
  · rcases Numeral.mem_padLeft hmem with rfl | hmem
    · exact .inr ⟨0, by decide, by decide⟩
    · obtain ⟨small, hsmall, rfl⟩ := List.mem_map.1 hmem
      rcases Numeral.mem_renderInt (by decide) hsmall with rfl | ⟨d, hd, rfl⟩
      · exact .inl (by decide)
      · exact .inr ⟨d, hd, rfl⟩

theorem bracket_not_mem_extraSpriteName (id : Int) : '(' ∉ (extraSpriteName id).toList := by
  intro hmem
  have hdigits : ∀ d < 36, '(' ≠ (Numeral.digitChar d).toUpper := by decide
  rcases mem_extraSpriteName hmem with hsign | ⟨d, hd, hdigit⟩
  · exact absurd hsign (by decide)
  · exact hdigits d hd hdigit

/-! ### Different numbers, different names -/

/-- The name of a thing with a number, in the table or beyond it. -/
def thingName (id : Int) : String := ((thing? id).map (·.name)).getD (extraThingName id)

theorem thing?_inj {i j : Int} {a b : Thing} (hi : thing? i = some a) (hj : thing? j = some b)
    (heq : a.name = b.name) : i = j :=
  eq_of_at? things_checked.2 hi hj (by rw [heq])

/-- No thing of the table has a name that is made up. -/
theorem name_ne_extraThingName {i j : Int} {t : Thing} (hbase : thing? i = some t) : t.name ≠ extraThingName j := by
  intro heq
  have hbytes := (things_checked.1 t (mem_of_at? hbase)).2
  rw [heq] at hbytes
  have hsplit : extraThingName j = "DEHEXTRA_" ++ toString (Word.wrap64 (j + 1)) := rfl
  rw [hsplit, Text.bytes, String.toByteArray_append, ByteArray.data_append, Array.toList_append,
    List.take_append_of_le_length (by decide)] at hbytes
  exact hbytes (by decide)

theorem extraThingName_inj {i j : Int} (hi : 0 ≤ i ∧ i ≤ Limits.extendedMax) (hj : 0 ≤ j ∧ j ≤ Limits.extendedMax)
    (heq : extraThingName i = extraThingName j) : i = j := by
  have hnumber : toString (Word.wrap64 (i + 1)) = toString (Word.wrap64 (j + 1)) := by
    have happend : "DEHEXTRA_" ++ toString (Word.wrap64 (i + 1)) = "DEHEXTRA_" ++ toString (Word.wrap64 (j + 1)) := heq
    exact (String.append_right_inj _).1 happend
  rw [Word.wrap64_of_small (by omega) (by omega), Word.wrap64_of_small (by omega) (by omega)] at hnumber
  have hsame : i + 1 = j + 1 := Int.repr_injective hnumber
  omega

/-- Different numbers have different names of things. -/
theorem thingName_inj {i j : Int} (hi : 0 ≤ i ∧ i ≤ Limits.extendedMax) (hj : 0 ≤ j ∧ j ≤ Limits.extendedMax)
    (heq : thingName i = thingName j) : i = j := by
  unfold thingName at heq
  cases hbasei : thing? i with
  | none =>
      cases hbasej : thing? j with
      | none => exact extraThingName_inj hi hj (by simpa [hbasei, hbasej] using heq)
      | some b => exact absurd (by simpa [hbasei, hbasej] using heq.symm) (name_ne_extraThingName hbasej)
  | some a =>
      cases hbasej : thing? j with
      | none => exact absurd (by simpa [hbasei, hbasej] using heq) (name_ne_extraThingName hbasei)
      | some b => exact thing?_inj hbasei hbasej (by simpa [hbasei, hbasej] using heq)

theorem weapon?_inj {i j : Int} {a b : Weapon} (hi : weapon? i = some a) (hj : weapon? j = some b)
    (heq : a.name = b.name) : i = j :=
  eq_of_at? weapons_checked.2 hi hj (by rw [heq])

theorem sound?_inj {i j : Int} {a b : Sound} (hi : sound? i = some a) (hj : sound? j = some b)
    (heq : Text.upper a.name = Text.upper b.name) : i = j := by
  have hletters : soundLetters a = soundLetters b := String.ofList_inj.1 heq
  rw [soundLetters_of_sound? hi, soundLetters_of_sound? hj] at hletters
  exact eq_of_at? sounds_checked.2 hi hj (by rw [hletters])

/-- No sound of the table has a name that is made up. -/
theorem upper_ne_extraSoundName {i j : Int} {snd : Sound} (hbase : sound? i = some snd) :
    Text.upper snd.name ≠ extraSoundName j := by
  intro heq
  have hletters : soundLetters snd = (extraSoundName j).toList := by
    rw [← heq, Text.upper, String.toList_ofList]
    rfl
  refine (soundLetters_plain hbase).2.2 ?_
  rw [hletters, extraSoundName, String.toList_append]
  exact List.prefix_append _ _

theorem extraSoundName_inj {i j : Int} (hi : numSounds ≤ i ∧ i ≤ Limits.extendedMax)
    (hj : numSounds ≤ j ∧ j ≤ Limits.extendedMax) (heq : extraSoundName i = extraSoundName j) : i = j := by
  have hsize : (numSounds : Int) = 109 := rfl
  have hnumber := (String.append_right_inj _).1 heq
  rw [Word.wrap64_of_small (by omega) (by omega), Word.wrap64_of_small (by omega) (by omega)] at hnumber
  have hsame := Numeral.padInt_inj (by omega) (by omega) hnumber
  omega

theorem size_sounds : sounds.size = numSounds := rfl

/-- Different numbers have different names of sounds. -/
theorem soundRef_inj {i j : Int} (hi : 0 ≤ i ∧ i ≤ Limits.extendedMax) (hj : 0 ≤ j ∧ j ≤ Limits.extendedMax)
    (heq : View.soundRef i = View.soundRef j) : i = j := by
  have hbeyond : ∀ {k : Int}, 0 ≤ k → sound? k = none → numSounds ≤ k := by
    intro k hk hnone
    by_cases hlt : k < numSounds
    · rw [← size_sounds] at hlt
      obtain ⟨snd, hsome⟩ : ∃ snd, at? sounds k = some snd := exists_of_bounds hk hlt
      exact absurd (hnone.symm.trans hsome) (by simp)
    · omega
  unfold View.soundRef at heq
  cases hbasei : sound? i with
  | none =>
      cases hbasej : sound? j with
      | none =>
          exact extraSoundName_inj ⟨hbeyond hi.1 hbasei, hi.2⟩ ⟨hbeyond hj.1 hbasej, hj.2⟩
            (by simpa [hbasei, hbasej] using heq)
      | some b => exact absurd (by simpa [hbasei, hbasej] using heq.symm) (upper_ne_extraSoundName hbasej)
  | some a =>
      cases hbasej : sound? j with
      | none => exact absurd (by simpa [hbasei, hbasej] using heq) (upper_ne_extraSoundName hbasei)
      | some b => exact sound?_inj hbasei hbasej (by simpa [hbasei, hbasej] using heq)

end Baseline
end DoomPatch
