import DoomPatch.CodePointer
import DoomPatch.Proofs.Baseline.Names
import DoomPatch.Proofs.Field.Range
import DoomPatch.Proofs.Text.Fold

/-!
# Facts about the references of the tables

The records of the unpatched game refer to entries of the tables only, and their code pointers are in the catalog.

* `ofAction?_action` — the code pointers of the catalog are found by the actions they are stored as.
* `Frame.Resolves`, `resolves_frame?` — the action of a frame is empty or found; so it is in the tables.
* `within_frame?`, `within_thing?`, `within_weapon?` — all references of the tables are within their limits.
-/

namespace DoomPatch

/-! ### Actions -/

/-- A list is trimmed if its first and its last character are no white space. -/
theorem Text.trimmed_of_ends {first last : Char} {middle : List Char} (hfirst : isBlank first = false)
    (hlast : isBlank last = false) : Trimmed (first :: (middle ++ [last])) := by
  constructor
  · intro c rest heq
    cases heq
    exact hfirst
  · intro rest c heq
    rw [← List.cons_append] at heq
    cases (List.append_inj' heq rfl).2
    exact hlast

namespace CodePointer

theorem normalize_action {p : CodePointer} {letters : List Char} {last : Char}
    (hname : p.mnemonic.toList = letters ++ [last]) (hlast : Text.isBlank last = false) :
    normalize p.action = Text.upper p.mnemonic := by
  have hchars : p.action.toList = 'A' :: ('_' :: letters ++ [last]) := by
    unfold action
    rw [String.toList_append, hname]
    rfl
  -- The two letters in front are their own upper case.
  have hupper : ('A' :: ('_' :: letters ++ [last])).map Text.upperChar
      = 'A' :: '_' :: (letters ++ [last]).map Text.upperChar := rfl
  unfold normalize Text.upper
  rw [hchars, Text.trimChars_of_ends (Text.trimmed_of_ends (by decide) hlast), hupper, hname]
  rfl

set_option maxRecDepth 4000 in
/-- The code pointers of the catalog are found by the actions they are stored as. -/
theorem ofAction?_action {p : CodePointer} (hp : p ∈ catalog) : (ofAction? p.action).isSome := by
  -- The check of a name goes through its letters; one over all bytes would go through every byte there is.
  have hletters : ∀ p ∈ catalog, asciiBytes p.mnemonic = true ∧ Text.bytes p.mnemonic ≠ [] ∧
      ((Text.bytes p.mnemonic).all fun b => !Text.isBlank (Char.ofNat b.toNat)) = true := by
    decide
  obtain ⟨hascii, hne, hall⟩ := hletters p hp
  have hblank : ∀ b ∈ Text.bytes p.mnemonic, Text.isBlank (Char.ofNat b.toNat) = false := by
    simpa using hall
  have hname : p.mnemonic.toList = ((Text.bytes p.mnemonic).dropLast.map fun b => Char.ofNat b.toNat)
      ++ [Char.ofNat ((Text.bytes p.mnemonic).getLast hne).toNat] := by
    rw [toList_of_ascii hascii]
    conv => lhs; rw [← List.dropLast_concat_getLast hne]
    simp
  have hnormal := normalize_action hname (hblank _ (List.getLast_mem hne))
  have hnonempty : p.action ≠ "" := by
    intro hempty
    have hchars := congrArg String.toList hempty
    simp [action] at hchars
  unfold ofAction? lookup?
  rw [if_neg hnonempty, hnormal, Option.isSome_map, List.find?_isSome]
  exact ⟨(Text.upper p.mnemonic, p), List.mem_map_of_mem hp, by simp⟩

theorem mem_catalog_of_lookup? {mnemonic : String} {p : CodePointer} (hp : lookup? mnemonic = some p) :
    p ∈ catalog := by
  obtain ⟨e, hfind, rfl⟩ := Option.map_eq_some_iff.1 hp
  obtain ⟨p, hmem, rfl⟩ := List.mem_map.1 (List.mem_of_find?_eq_some hfind)
  exact hmem

theorem mem_catalog_of_ofAction? {action : String} {p : CodePointer} (hp : ofAction? action = some p) :
    p ∈ catalog := by
  unfold ofAction? at hp
  split at hp
  · cases hp
  · exact mem_catalog_of_lookup? hp

end CodePointer

/-- The action of a frame is empty, or that of a code pointer. -/
def Frame.Resolves (f : Frame) : Prop := f.action ≠ "" → (CodePointer.ofAction? f.action).isSome

/-- The bytes of a text as one number. -/
def Text.code (s : String) : Nat := (Text.bytes s).foldr (fun b n => n * 256 + b.toNat) 1

theorem Text.code_inj {s t : String} (hcode : Text.code s = Text.code t) : s = t := by
  -- The leading digit 1 keeps count of the bytes.
  have hpos : ∀ l : List UInt8, 0 < l.foldr (fun b n => n * 256 + b.toNat) 1 := by
    intro l
    induction l with
    | nil => decide
    | cons b l ih => exact Nat.add_pos_left (Nat.mul_pos ih (by decide)) _
  have hlists : ∀ l l' : List UInt8, l.foldr (fun b n => n * 256 + b.toNat) 1
      = l'.foldr (fun b n => n * 256 + b.toNat) 1 → l = l' := by
    intro l
    induction l with
    | nil =>
        intro l' heq
        cases l' with
        | nil => rfl
        | cons b' l' =>
            have hmore := hpos l'
            simp only [List.foldr_nil, List.foldr_cons] at heq
            omega
    | cons b l ih =>
        intro l' heq
        cases l' with
        | nil =>
            have hmore := hpos l
            simp only [List.foldr_nil, List.foldr_cons] at heq
            omega
        | cons b' l' =>
            simp only [List.foldr_cons] at heq
            have hb := b.toNat_lt
            have hb' := b'.toNat_lt
            have hfirst : b = b' := UInt8.toNat_inj.1 (by omega)
            rw [ih l' (by omega), hfirst]
  have hbytes := hlists _ _ hcode
  exact String.toByteArray_inj.1 (ByteArray.ext (Array.toList_inj.1 hbytes))

/-- The sounds that a thing names. -/
def Thing.sounds (t : Thing) : List Int :=
  [t.seeSound, t.attackSound, t.painSound, t.deathSound, t.activeSound, t.ripSound]

namespace Baseline

set_option maxRecDepth 4000 in
theorem size_frames : frames.size = numFrames := by
  rw [frames, List.size_toArray]
  decide

set_option maxRecDepth 1000 in
theorem size_sprites : sprites.size = numSprites := by decide

set_option maxRecDepth 8000 in
/-- The actions of the tables are in the catalog. -/
theorem resolves_frame? {id : Int} {f : Frame} (hframe : frame? id = some f) : f.Resolves := by
  -- Texts are compared as numbers, which is quicker than letter by letter.
  have hall : ∀ e ∈ frames.toList, e.frame.action = "" ∨
      (CodePointer.catalog.any fun p => Text.code p.action == Text.code e.frame.action) = true := by
    decide
  obtain ⟨e, hentry, rfl⟩ := Option.map_eq_some_iff.1 hframe
  intro hne
  rcases hall e (mem_of_at? hentry) with hempty | hfound
  · exact absurd hempty hne
  · obtain ⟨p, hp, hcode⟩ := List.any_eq_true.1 hfound
    rw [← Text.code_inj (beq_iff_eq.1 hcode)]
    exact CodePointer.ofAction?_action hp

set_option maxRecDepth 4000 in
theorem within_frame? {id : Int} {f : Frame} (hframe : frame? id = some f) :
    FrameField.table.Within Limits.tables f := by
  have hall : ∀ e ∈ frames.toList, (0 ≤ e.frame.sprite ∧ e.frame.sprite ≤ Limits.tables.sprites) ∧
      (0 ≤ e.frame.next ∧ e.frame.next ≤ Limits.tables.frames) ∧
      (0 ≤ e.frame.subSprite ∧ e.frame.subSprite ≤ FieldKind.maxPicture) := by
    decide
  obtain ⟨e, hentry, rfl⟩ := Option.map_eq_some_iff.1 hframe
  obtain ⟨hsprite, hnext, hpicture⟩ := hall e (mem_of_at? hentry)
  intro field
  cases field with
  | sprite => exact hsprite
  | next => exact hnext
  | picture => exact hpicture
  | _ => trivial

set_option maxRecDepth 4000 in
theorem within_thing? {id : Int} {t : Thing} (hthing : thing? id = some t) :
    ThingField.table.Within Limits.tables t := by
  have hall : ∀ t ∈ things.toList, (∀ role ∈ Role.ofThing, 0 ≤ t.start role ∧ t.start role ≤ Limits.tables.frames) ∧
      ∀ n ∈ t.sounds, 0 ≤ n ∧ n ≤ Limits.tables.sounds := by
    decide
  obtain ⟨hstart, hsound⟩ := hall t (mem_of_at? hthing)
  intro field
  cases field with
  | spawn => exact hstart .spawn (by decide)
  | see => exact hstart .see (by decide)
  | melee => exact hstart .melee (by decide)
  | missile => exact hstart .missile (by decide)
  | pain => exact hstart .pain (by decide)
  | death => exact hstart .death (by decide)
  | xdeath => exact hstart .xdeath (by decide)
  | raise => exact hstart .raise (by decide)
  | seeSound | attackSound | painSound | deathSound | activeSound | ripSound =>
      exact hsound _ (by simp [Thing.sounds, ThingField.table, ThingField.get])
  | _ => trivial

theorem within_weapon? {id : Int} {w : Weapon} (hweapon : weapon? id = some w) :
    WeaponField.table.Within Limits.tables w := by
  have hall : ∀ w ∈ weapons.toList, (0 ≤ w.ammo ∧ w.ammo ≤ FieldKind.maxAmmo) ∧
      ∀ role ∈ Role.ofWeapon, 0 ≤ w.start role ∧ w.start role ≤ Limits.tables.frames := by
    decide
  obtain ⟨hammo, hstart⟩ := hall w (mem_of_at? hweapon)
  intro field
  cases field with
  | ammo => exact hammo
  | up => exact hstart .up (by decide)
  | down => exact hstart .down (by decide)
  | ready => exact hstart .ready (by decide)
  | attack => exact hstart .attack (by decide)
  | flash => exact hstart .flash (by decide)
  | _ => trivial

/-! ### What is within the limits of the tables is in the tables -/

theorem isSome_frame?_of_le {n : Int} (hn : 0 ≤ n ∧ n ≤ Limits.tables.frames) : (frame? n).isSome := by
  have hlast : Limits.tables.frames = (numFrames : Int) - 1 := rfl
  obtain ⟨e, hentry⟩ : ∃ e, at? frames n = some e := exists_of_bounds hn.1 (by rw [size_frames]; omega)
  unfold frame?
  rw [hentry]
  rfl

theorem isSome_sound?_of_le {n : Int} (hn : 0 ≤ n ∧ n ≤ Limits.tables.sounds) : (sound? n).isSome := by
  have hlast : Limits.tables.sounds = (numSounds : Int) - 1 := rfl
  exact Option.isSome_iff_exists.2 (exists_of_bounds hn.1 (by rw [size_sounds]; omega))

theorem isSome_sprite?_of_le {n : Int} (hn : 0 ≤ n ∧ n ≤ Limits.tables.sprites) : (sprite? n).isSome := by
  have hlast : Limits.tables.sprites = (numSprites : Int) - 1 := rfl
  exact Option.isSome_iff_exists.2 (exists_of_bounds hn.1 (by rw [size_sprites]; omega))

theorem bounds_of_spriteIndex? {name : String} {id : Int} (hindex : spriteIndex? name = some id) :
    0 ≤ id ∧ id ≤ Limits.tables.sprites := by
  have hlast : Limits.tables.sprites = (numSprites : Int) - 1 := rfl
  obtain ⟨n, hfind, rfl⟩ := Option.map_eq_some_iff.1 hindex
  have hlt : n < sprites.toList.length := (List.findIdx?_eq_some_iff_findIdx_eq.1 hfind).1
  rw [Array.length_toList, size_sprites] at hlt
  rw [Int.ofNat_eq_natCast]
  omega

theorem bounds_of_frame? {id : Int} {f : Frame} (hframe : frame? id = some f) : 0 ≤ id ∧ id ≤ Limits.tables.frames := by
  have hlast : Limits.tables.frames = (numFrames : Int) - 1 := rfl
  obtain ⟨e, hentry, -⟩ := Option.map_eq_some_iff.1 hframe
  have hbounds := bounds_of_at? hentry
  rw [size_frames] at hbounds
  omega

end Baseline
end DoomPatch
