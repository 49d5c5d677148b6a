import DoomPatch.Proofs.Text.Numeral

/-!
# Names without brackets

Names are put into brackets in definitions, so they must not contain any.  Whether a name does can be told from its
bytes, which is much less work than to take it apart into characters.

* `Bare` — a name without brackets.
* `bare_append`, `bare_toString`, `bare_padInt` — names made up from words and numbers.
* `bare_of_bytes` — names that are checked byte by byte.
* `length_le_utf8ByteSize` — a bound for the characters from the bytes.
* `toList_of_ascii`, `toNat_lt_of_ascii` — the characters of a text in ASCII are its bytes.
-/

namespace DoomPatch

/-- A name without brackets. -/
def Bare (name : String) : Prop := '(' ∉ name.toList ∧ ')' ∉ name.toList

theorem bare_append {a b : String} (ha : Bare a) (hb : Bare b) : Bare (a ++ b) := by
  unfold Bare
  simp only [String.toList_append, List.mem_append, not_or]
  exact ⟨⟨ha.1, hb.1⟩, ha.2, hb.2⟩

/-- A name is bare if all of its characters are from a set without brackets. -/
theorem bare_of_forall {name : String} {p : Char → Prop} (hchars : ∀ c ∈ name.toList, p c) (hopen : ¬ p '(')
    (hclose : ¬ p ')') : Bare name :=
  ⟨fun hmem => hopen (hchars _ hmem), fun hmem => hclose (hchars _ hmem)⟩

theorem bare_toString (n : Int) : Bare (toString n) :=
  bare_of_forall (fun _ hc => Numeral.isDigit_of_mem_toString hc) (by decide) (by decide)

theorem bare_padInt (width : Nat) (n : Int) : Bare (Numeral.padInt width n) :=
  bare_of_forall (fun _ hc => Numeral.mem_padInt hc) (by decide) (by decide)

/-! ### Bytes -/

/-- The bytes of a text. -/
def Text.bytes (s : String) : List UInt8 := s.toByteArray.data.toList

theorem Text.bytes_eq_flatMap (s : String) : Text.bytes s = s.toList.flatMap String.utf8EncodeChar := by
  unfold Text.bytes
  rw [← String.ofList_toList (s := s), String.toByteArray_ofList, List.utf8Encode, List.data_toByteArray,
    String.toList_ofList]

/-- The bytes of a character are bytes of the text. -/
theorem byte_mem_of_mem {s : String} {c : Char} (hc : c ∈ s.toList) {b : UInt8} (hb : b ∈ String.utf8EncodeChar c) :
    b ∈ Text.bytes s := by
  rw [Text.bytes_eq_flatMap]
  exact List.mem_flatMap.2 ⟨c, hc, hb⟩

/-- Whether no byte of a text is that of a bracket. -/
def bareBytes (name : String) : Bool := (Text.bytes name).all fun b => b != 40 && b != 41

theorem bare_of_bytes {name : String} (hbytes : bareBytes name = true) : Bare name := by
  have hall : ∀ b ∈ Text.bytes name, b ≠ 40 ∧ b ≠ 41 := by
    intro b hb
    simpa using List.all_eq_true.1 hbytes b hb
  refine ⟨fun hmem => ?_, fun hmem => ?_⟩
  · exact (hall 40 (byte_mem_of_mem hmem (by decide))).1 rfl
  · exact (hall 41 (byte_mem_of_mem hmem (by decide))).2 rfl

/-- A text has no more characters than bytes. -/
theorem length_le_utf8ByteSize (s : String) : s.toList.length ≤ s.utf8ByteSize := by
  have hchars : ∀ l : List Char, l.length ≤ (l.flatMap String.utf8EncodeChar).length := by
    intro l
    induction l with
    | nil => simp
    | cons c l ih =>
        have hpos := c.utf8Size_pos
        rw [List.flatMap_cons, List.length_append, String.length_utf8EncodeChar, List.length_cons]
        omega
  have hsize : s.utf8ByteSize = (s.toList.flatMap String.utf8EncodeChar).length := by
    rw [← Text.bytes_eq_flatMap, ← String.size_toByteArray]
    rfl
  rw [hsize]
  exact hchars _

/-! ### Texts in ASCII -/

/-- Whether all bytes of a text are those of ASCII characters. -/
def asciiBytes (s : String) : Bool := (Text.bytes s).all (· < 128)

/-- A character beyond ASCII ends in a byte beyond ASCII. -/
theorem trail_mem_utf8EncodeChar {c : Char} (hbeyond : 127 < c.val.toNat) :
    UInt8.ofNat (c.val.toNat % 64 + 128) ∈ String.utf8EncodeChar c := by
  unfold String.utf8EncodeChar
  simp only [show ¬ c.val.toNat ≤ 127 by omega, if_false]
  split
  · simp
  · split <;> simp

theorem char_of_ascii {c : Char} (hbytes : ∀ b ∈ String.utf8EncodeChar c, b < 128) :
    (String.utf8EncodeChar c).map (fun b => Char.ofNat b.toNat) = [c] := by
  by_cases hascii : c.val.toNat ≤ 127
  · have hchar : Char.ofNat c.val.toNat = c := Char.ofNat_toNat c
    unfold String.utf8EncodeChar
    simp only [hascii, if_true, List.map_cons, List.map_nil, UInt8.toNat_ofNat']
    rw [Nat.mod_eq_of_lt (by omega), hchar]
  · have htrail := hbytes _ (trail_mem_utf8EncodeChar (by omega))
    rw [UInt8.lt_iff_toNat_lt, UInt8.toNat_ofNat', Nat.mod_eq_of_lt (by omega)] at htrail
    have hbound : (128 : UInt8).toNat = 128 := rfl
    omega

/-- The characters of a text in ASCII are its bytes. -/
theorem toList_of_ascii {s : String} (hascii : asciiBytes s = true) :
    s.toList = (Text.bytes s).map fun b => Char.ofNat b.toNat := by
  have hsmall : ∀ b ∈ s.toList.flatMap String.utf8EncodeChar, b < 128 := by
    rw [← Text.bytes_eq_flatMap]
    simpa [asciiBytes] using hascii
  rw [Text.bytes_eq_flatMap]
  generalize s.toList = chars at hsmall ⊢
  induction chars with
  | nil => rfl
  | cons c rest ih =>
      have hfirst := char_of_ascii fun b hb => hsmall b (List.mem_append_left _ hb)
      have hrest := ih fun b hb => hsmall b (List.mem_append_right _ hb)
      rw [List.flatMap_cons, List.map_append, hfirst, ← hrest]
      rfl

theorem toNat_lt_of_ascii {s : String} (hascii : asciiBytes s = true) {c : Char} (hc : c ∈ s.toList) :
    c.toNat < 0x80 := by
  by_cases hbeyond : 127 < c.val.toNat
  · have htrail := List.all_eq_true.1 hascii _ (byte_mem_of_mem hc (trail_mem_utf8EncodeChar hbeyond))
    rw [decide_eq_true_eq, UInt8.lt_iff_toNat_lt, UInt8.toNat_ofNat', Nat.mod_eq_of_lt (by omega)] at htrail
    have hbound : (128 : UInt8).toNat = 128 := rfl
    omega
  · change c.val.toNat < 128
    omega

end DoomPatch
