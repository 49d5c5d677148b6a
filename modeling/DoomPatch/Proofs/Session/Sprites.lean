import DoomPatch.Animation
import DoomPatch.Proofs.Baseline.Names
import DoomPatch.Proofs.Baseline.References
import DoomPatch.Proofs.Session.Change
import DoomPatch.Proofs.Word

/-!
# Sprites that share a name

A sprite beyond the table is named by an `S` and digits of base 36, the capital letters among them.  Such a name can be
read back, so no two of these sprites have the same name; but some names of the table can be read in the same way.

* `readExtra?`, `readExtra?_extraSpriteName` — made-up names are read back.
* `namesakes` — the sprites of the table with such a name, each with the sprite beyond the table that it names.
* `sprites_checked` — that these are all.
* `Session.spriteName_eq_iff` — which sprites share a name, and which frames are shown with a sprite of the table
  though theirs is another.
-/

namespace DoomPatch

/-! ### Capital digits -/

namespace Numeral

theorem readFrom_map_toUpper {cs : List Char} (hdigits : ∀ c ∈ cs, ∃ d < 36, c = digitChar d) (base acc : Nat) :
    readFrom base acc (cs.map Char.toUpper) = readFrom base acc cs := by
  have hvalue : ∀ d < 36, digitValue? (digitChar d).toUpper = digitValue? (digitChar d) := by decide
  induction cs generalizing acc with
  | nil => rfl
  | cons c cs ih =>
      obtain ⟨d, hd, rfl⟩ := hdigits c List.mem_cons_self
      have hrest := ih fun c hc => hdigits c (List.mem_cons_of_mem _ hc)
      simp only [List.map_cons, readFrom, hvalue d hd, hrest]

end Numeral

namespace Baseline

/-! ### Names beyond the table -/

/-- The number that a name consists of behind an `S`. -/
def readExtra? : List Char → Option Nat
  | 'S' :: digits => Numeral.readFrom 36 0 digits
  | _ => none

/-- A made-up name is read as the place behind the table. -/
theorem readExtra?_extraSpriteName {id : Int} (hlow : numSprites ≤ id) (hfits : Word.Fits id) :
    readExtra? (extraSpriteName id).toList = some (id - numSprites).toNat := by
  have hsize : (numSprites : Int) = 138 := rfl
  have hword : Word.wrap64 (id - numSprites) = id - numSprites := by
    apply Word.wrap64_of_fits
    unfold Word.Fits at hfits ⊢
    omega
  unfold extraSpriteName
  rw [hword, String.toList_ofList, readExtra?, Numeral.readFrom_padLeft (by decide), Numeral.renderInt,
    if_neg (by omega), Numeral.readFrom_map_toUpper fun c hc => Numeral.mem_render (by decide) hc,
    Numeral.readFrom_render (by decide) (by decide)]
  congr 1
  omega

theorem extraSpriteName_inj {i j : Int} (hi : numSprites ≤ i ∧ Word.Fits i) (hj : numSprites ≤ j ∧ Word.Fits j)
    (heq : extraSpriteName i = extraSpriteName j) : i = j := by
  have hreadi := readExtra?_extraSpriteName hi.1 hi.2
  have hreadj := readExtra?_extraSpriteName hj.1 hj.2
  rw [heq, hreadj, Option.some.injEq] at hreadi
  omega

/-! ### The names of the table -/

/-- The sprites of the table whose names are made up as well, each with the sprite beyond the table that has the same
name. -/
def namesakes : List (Int × Int) :=
  [(1, 23230), (5, 23229), (6, 23216), (11, 14266), (30, 33430), (35, 26583), (39, 14086), (44, 27159), (45, 33199),
    (51, 37609), (68, 38392), (70, 32343), (75, 39695), (84, 22695), (85, 15291), (92, 23063), (93, 21704), (95, 29696),
    (107, 29327), (124, 29075), (125, 29255), (126, 29651)]

/-- The characters of the name of a sprite, made from its bytes. -/
def spriteCodes (name : String) : List Char := (Text.bytes name).map fun b => Char.ofNat b.toNat

set_option maxRecDepth 4000 in
theorem sprites_checked :
    (∀ name ∈ sprites.toList, asciiBytes name = true ∧ ':' ∉ spriteCodes name) ∧
      fresh 0 (sprites.toList.map fun name => signature 1553 ((spriteCodes name).map (·.toNat))) = true ∧
      ∀ e ∈ sprites.toList.zipIdx, ∀ n ∈ readExtra? (spriteCodes e.1),
        ((e.2 : Int), (numSprites + n : Int)) ∈ namesakes := by
  decide

theorem namesakes_checked :
    ∀ e ∈ namesakes, sprite? e.1 = some (extraSpriteName e.2) ∧ numSprites ≤ e.2 ∧ Word.Fits e.2 := by
  decide +kernel

theorem lt_of_mem_namesakes {i j : Int} (hpair : (i, j) ∈ namesakes) : i < j := by
  obtain ⟨hbase, hlow, -⟩ := namesakes_checked _ hpair
  have hbounds := bounds_of_at? hbase
  rw [size_sprites] at hbounds
  omega

theorem toList_sprite? {id : Int} {name : String} (hbase : sprite? id = some name) : name.toList = spriteCodes name :=
  toList_of_ascii (sprites_checked.1 name (mem_of_at? hbase)).1

theorem sprite?_inj {i j : Int} {name : String} (hi : sprite? i = some name) (hj : sprite? j = some name) : i = j :=
  eq_of_at? sprites_checked.2.1 hi hj rfl

theorem sprite?_eq_none_iff {id : Int} (hid : 0 ≤ id) : sprite? id = none ↔ numSprites ≤ id := by
  constructor
  · intro hnone
    by_cases hlt : id < sprites.size
    · obtain ⟨name, hsome⟩ : ∃ name, at? sprites id = some name := exists_of_bounds hid hlt
      exact absurd (hnone.symm.trans hsome) (by simp)
    · rw [size_sprites] at hlt
      omega
  · intro hle
    cases hbase : sprite? id with
    | none => rfl
    | some name =>
        have hbounds := bounds_of_at? hbase
        rw [size_sprites] at hbounds
        omega

/-- Which sprite beyond the table has the name of a sprite of the table. -/
theorem eq_extraSpriteName_iff {k j : Int} {name : String} (hbase : sprite? k = some name) (hlow : numSprites ≤ j)
    (hfits : Word.Fits j) : name = extraSpriteName j ↔ (k, j) ∈ namesakes := by
  constructor
  · intro heq
    have hread : readExtra? (spriteCodes name) = some (j - numSprites).toNat := by
      rw [← toList_sprite? hbase, heq, readExtra?_extraSpriteName hlow hfits]
    have hbounds := bounds_of_at? hbase
    have hentry : (name, k.toNat) ∈ sprites.toList.zipIdx := by
      unfold sprite? at? at hbase
      rw [if_pos hbounds.1] at hbase
      rw [List.mem_zipIdx_iff_getElem?, Array.getElem?_toList]
      exact hbase
    have hpair := sprites_checked.2.2 _ hentry _ hread
    have hk : ((k.toNat : Nat) : Int) = k := by omega
    have hj : (numSprites + ((j - numSprites).toNat : Nat) : Int) = j := by omega
    rw [hk, hj] at hpair
    exact hpair
  · intro hpair
    have hshared := (namesakes_checked _ hpair).1
    exact Option.some.inj (hbase.symm.trans hshared)

/-! ### All names -/

/-- The name of a sprite with a number, in the table or beyond it. -/
def spriteName (id : Int) : String := (sprite? id).getD (extraSpriteName id)

theorem spriteName_eq_iff_of_lt {i j : Int} (hi : 0 ≤ i) (hlt : i < j) (hfits : Word.Fits j) :
    spriteName i = spriteName j ↔ (i, j) ∈ namesakes := by
  have hj : 0 ≤ j := by omega
  unfold spriteName
  cases hbasej : sprite? j with
  | some b =>
      -- Both are in the table, where names differ, and a namesake would be beyond it.
      obtain ⟨a, hbasei⟩ : ∃ a, sprite? i = some a := by
        refine Option.ne_none_iff_exists'.1 fun hnone => ?_
        have hlow := (sprite?_eq_none_iff hi).1 hnone
        rw [(sprite?_eq_none_iff hj).2 (by omega)] at hbasej
        cases hbasej
      rw [hbasei, Option.getD_some, Option.getD_some]
      constructor
      · rintro rfl
        exact absurd (sprite?_inj hbasei hbasej) (by omega)
      · intro hpair
        rw [(sprite?_eq_none_iff hj).2 (namesakes_checked _ hpair).2.1] at hbasej
        cases hbasej
  | none =>
      have hlowj := (sprite?_eq_none_iff hj).1 hbasej
      cases hbasei : sprite? i with
      | some a => exact eq_extraSpriteName_iff hbasei hlowj hfits
      | none =>
          have hlowi := (sprite?_eq_none_iff hi).1 hbasei
          have hfitsi : Word.Fits i := by
            unfold Word.Fits at hfits ⊢
            omega
          constructor
          · intro heq
            exact absurd (extraSpriteName_inj ⟨hlowi, hfitsi⟩ ⟨hlowj, hfits⟩ heq) (by omega)
          · intro hpair
            rw [(namesakes_checked _ hpair).1] at hbasei
            cases hbasei

theorem colon_not_mem_spriteName (id : Int) : ':' ∉ (spriteName id).toList := by
  unfold spriteName
  cases hbase : sprite? id with
  | some name =>
      rw [Option.getD_some, toList_sprite? hbase]
      exact (sprites_checked.1 name (mem_of_at? hbase)).2
  | none =>
      intro hmem
      have hdigits : ∀ d < 36, ':' ≠ (Numeral.digitChar d).toUpper := by decide
      rcases mem_extraSpriteName hmem with hsign | ⟨d, hd, hdigit⟩
      · exact absurd hsign (by decide)
      · exact hdigits d hd hdigit

end Baseline

/-! ### Frames -/

/-- Texts that go on with the same character are the same if neither has the character. -/
theorem eq_of_append_isPrefix {c : Char} {a b rest : List Char} (ha : c ∉ a) (hb : c ∉ b)
    (hfront : a ++ [c] <+: b ++ c :: rest) : a = b := by
  induction a generalizing b with
  | nil =>
      cases b with
      | nil => rfl
      | cons x b =>
          have hx : c = x := (List.cons_prefix_cons.1 hfront).1
          exact absurd hx fun heq => hb (heq ▸ List.mem_cons_self)
  | cons x a ih =>
      cases b with
      | nil =>
          have hx : x = c := (List.cons_prefix_cons.1 hfront).1
          exact absurd hx fun heq => ha (heq ▸ List.mem_cons_self)
      | cons y b =>
          obtain ⟨rfl, hrest⟩ := List.cons_prefix_cons.1 hfront
          rw [List.mem_cons, not_or] at ha hb
          rw [ih ha.2 hb.2 hrest]

/-- A frame is shown by the name of its sprite, a colon, and more. -/
theorem Display.exists_frame_eq (d : Display) {r : Reel} {id : Int} {f : Frame} (hframe : r.frame? id = some f) :
    ∃ rest, (d.frame r id).toList = (d.sprite f.sprite).toList ++ ':' :: rest := by
  unfold Display.frame
  rw [hframe]
  simp only [String.toList_append, List.append_assoc]
  exact ⟨_, rfl⟩

namespace Session

theorem spriteName_of_plain {s : Session} {id : Int} (hplain : s.isRenamed id = false) :
    s.spriteName id = Baseline.spriteName id := by
  have hnone : s.sprites.get? id = none := by simpa [isRenamed, SortedMap.contains] using hplain
  unfold spriteName Baseline.spriteName
  rw [hnone, Option.none_or]

/-- **Which sprites share a name.**  Without renames, two sprites have the same name exactly if they are the same or
`namesakes`.  So a frame whose sprite is beyond the table is shown with a sprite of the table exactly if the two are
`namesakes`. -/
theorem spriteName_eq_iff (s : Session) (hplain : ∀ id, s.isRenamed id = false) :
    (∀ i j, 0 ≤ i → Word.Fits i → 0 ≤ j → Word.Fits j →
      (s.spriteName i = s.spriteName j ↔
        i = j ∨ (i, j) ∈ Baseline.namesakes ∨ (j, i) ∈ Baseline.namesakes)) ∧
    ∀ (d : Display) (r : Reel) (id : Int) (f : Frame), d.sprite = s.spriteName → r.frame? id = some f →
      Baseline.numSprites ≤ f.sprite → Word.Fits f.sprite →
      ∀ k name, Baseline.sprite? k = some name →
        (name.toList ++ [':'] <+: (d.frame r id).toList ↔ (k, f.sprite) ∈ Baseline.namesakes) := by
  have hname : ∀ id, s.spriteName id = Baseline.spriteName id := fun id => spriteName_of_plain (hplain id)
  refine ⟨fun i j hi hfitsi hj hfitsj => ?_, fun d r id f hd hframe hlow hfits k name hbase => ?_⟩
  · rw [hname, hname]
    rcases Int.lt_trichotomy i j with hlt | rfl | hlt
    · have hnot : (j, i) ∉ Baseline.namesakes := fun hpair => absurd (Baseline.lt_of_mem_namesakes hpair) (by omega)
      simp [Baseline.spriteName_eq_iff_of_lt hi hlt hfitsj, hnot, Int.ne_of_lt hlt]
    · simp
    · have hnot : (i, j) ∉ Baseline.namesakes := fun hpair => absurd (Baseline.lt_of_mem_namesakes hpair) (by omega)
      rw [eq_comm]
      simp [Baseline.spriteName_eq_iff_of_lt hj hlt hfitsi, hnot, Int.ne_of_gt hlt]
  · obtain ⟨rest, hrest⟩ := d.exists_frame_eq hframe
    have hshown : Baseline.spriteName k = name := by
      unfold Baseline.spriteName
      rw [hbase, Option.getD_some]
    have hbounds := Baseline.bounds_of_at? hbase
    rw [Baseline.size_sprites] at hbounds
    rw [← Baseline.spriteName_eq_iff_of_lt hbounds.1 (by omega) hfits, hshown, hrest, hd, hname]
    constructor
    · intro hfront
      have hcolon := Baseline.colon_not_mem_spriteName k
      rw [hshown] at hcolon
      exact String.toList_inj.1 (eq_of_append_isPrefix hcolon (Baseline.colon_not_mem_spriteName _) hfront)
    · rintro rfl
      exact ⟨rest, by simp⟩

/-- The sprite of the shotgun is the first of the table beyond which a sprite has the same name. -/
theorem spriteName_eq_iff_shotgun :
    let s := Session.new 2021
    (∀ id, s.isRenamed id = false) ∧ s.spriteName 23229 ≠ s.spriteName 23231 ∧ s.spriteName 1 = s.spriteName 23230 := by
  intro s
  have hplain : ∀ id, s.isRenamed id = false := fun _ => rfl
  have hnames := (spriteName_eq_iff s hplain).1
  refine ⟨hplain, fun heq => ?_, ?_⟩
  · exact absurd ((hnames 23229 23231 (by decide) (by decide) (by decide) (by decide)).1 heq) (by decide)
  · exact (hnames 1 23230 (by decide) (by decide) (by decide) (by decide)).2 (.inr (.inl (by decide)))

/-- A frame is given a sprite beyond the table, and what is shown is the shotgun. -/
theorem extra_sprite_shown_as_shotgun :
    ∃ s : Session, s = patched 2021 [.frameField 2 "Sprite number" 23230] ∧ s.Reachable ∧
      (∀ id, s.isRenamed id = false) ∧ (s.frame? 2).map (·.sprite) = some 23230 ∧
      Baseline.sprite? 23230 = none ∧ Baseline.sprite? 1 = some "SHTG" ∧ s.spriteName 23230 = s.spriteName 1 ∧
      Display.frame ⟨s.spriteName, fun _ f => Display.catalogAction f⟩ s.reel 2 = "SHTG:A:1:NORMAL:READY" := by
  -- Only the change is looked at: to find the users of the frame, all chains would be followed.
  have hpatched : patched 2021 [.frameField 2 "Sprite number" 23230] =
      (new 2021).carry (.frame 2 "Sprite number" (FrameField.table.store .sprite 23230)) := by
    have hresolve : (new 2021).resolve FrameField.table "frame" 2 "Sprite number" 23230 = .ok .sprite := rfl
    rw [patched_frameField, fieldChange, hresolve]
    rfl
  have hreachable := reachable_patched 2021 [.frameField 2 "Sprite number" 23230]
  generalize patched 2021 [.frameField 2 "Sprite number" 23230] = s at hpatched hreachable
  have hsprites : s.sprites = (new 2021).sprites := by
    rw [hpatched, sprites_carry]
    rfl
  have hframes : s.frames = Overlay.rewriteAll (frameBase 2021) (new 2021).frames
      [⟨2, FrameField.table.store .sprite 23230⟩] := by
    rw [hpatched, frames_carry]
    rfl
  have hplain : ∀ id, s.isRenamed id = false := by
    intro id
    unfold isRenamed
    rw [hsprites]
    rfl
  have hnames : s.spriteName = Baseline.spriteName := funext fun id => spriteName_of_plain (hplain id)
  have hframe : s.reel.frame? 2 = some { sprite := 23230, tics := 1, action := "A_WeaponReady", next := 2 } := by
    change (s.frames.get? 2).or (Baseline.frame? 2) = _
    rw [hframes]
    decide +kernel
  refine ⟨s, rfl, hreachable, hplain, ?_, by decide +kernel, by decide +kernel, ?_, ?_⟩
  · exact congrArg (Option.map (·.sprite)) hframe
  · rw [hnames]
    decide +kernel
  · unfold Display.frame
    rw [hframe, hnames]
    decide +kernel

end Session
end DoomPatch
