import DoomPatch.Proofs.Field.Separate

/-!
# The ranges of references

Some fields hold the number of something else: a frame, a sound, a sprite, a picture or a type of ammunition.  A
number is checked before it is stored, under the limits of the moment, and limits are only ever raised to the largest
ones.  So the references of a record stay within any limits that were never exceeded.

* `Limits.Le` — limits that are not lower than others; `Limits.le_raised` — the largest ones.
* `FieldKind.InRange` — the range of a reference, and `inRange_of_validate` — what is checked is in it.
* `FieldTable.Within` — all references of a record are in range.
* `FieldTable.Within.store` — storing a number that was checked keeps them there.
-/

namespace DoomPatch

namespace Limits

/-- The limits of the tables of the game. -/
def tables : Limits := ofVersion 0

/-- The largest limits. -/
def raised : Limits := ofVersion extendedVersion

/-- No limit is lower. -/
structure Le (low high : Limits) : Prop where
  frames : low.frames ≤ high.frames
  sounds : low.sounds ≤ high.sounds
  sprites : low.sprites ≤ high.sprites

theorem ofVersion_of_lt {version : Int} (hlt : version < extendedVersion) : ofVersion version = tables := by
  have hzero : ¬ extendedVersion ≤ 0 := by decide
  unfold tables ofVersion
  rw [if_neg (by omega), if_neg hzero]

theorem ofVersion_of_le {version : Int} (hle : extendedVersion ≤ version) : ofVersion version = raised := by
  unfold raised ofVersion
  rw [if_pos hle, if_pos (Int.le_refl _)]

theorem tables_le_raised : tables.Le raised := ⟨by decide, by decide, by decide⟩

theorem Le.refl (lim : Limits) : lim.Le lim := ⟨Int.le_refl _, Int.le_refl _, Int.le_refl _⟩

theorem Le.trans {low mid high : Limits} (hlow : low.Le mid) (hhigh : mid.Le high) : low.Le high :=
  ⟨Int.le_trans hlow.frames hhigh.frames, Int.le_trans hlow.sounds hhigh.sounds,
    Int.le_trans hlow.sprites hhigh.sprites⟩

/-- There are no limits but these two. -/
theorem tables_or_raised (version : Int) : ofVersion version = tables ∨ ofVersion version = raised := by
  by_cases hle : extendedVersion ≤ version
  · exact .inr (ofVersion_of_le hle)
  · exact .inl (ofVersion_of_lt (by omega))

theorem le_raised (version : Int) : (ofVersion version).Le raised := by
  rcases tables_or_raised version with heq | heq
  · exact heq ▸ tables_le_raised
  · exact heq ▸ Le.refl _

theorem tables_le (version : Int) : tables.Le (ofVersion version) := by
  rcases tables_or_raised version with heq | heq
  · exact heq ▸ Le.refl _
  · exact heq ▸ tables_le_raised

end Limits

namespace FieldKind

/-- Whether the numbers of a kind stand for something else. -/
def refers : FieldKind → Bool
  | frame | sound | sprite | subSprite | ammo => true
  | any | nonNegative | positive | bits => false

/-- A number of a kind is in range; what does not refer to anything always is. -/
def InRange (lim : Limits) (v : Int) : FieldKind → Prop
  | frame => 0 ≤ v ∧ v ≤ lim.frames
  | sound => 0 ≤ v ∧ v ≤ lim.sounds
  | sprite => 0 ≤ v ∧ v ≤ lim.sprites
  | subSprite => 0 ≤ Word.clearBit v 15 ∧ Word.clearBit v 15 ≤ maxPicture
  | ammo => 0 ≤ v ∧ v ≤ maxAmmo
  | any | nonNegative | positive | bits => True

theorem checkIndex_eq_ok_iff {field : String} {v max : Int} : checkIndex field v max = .ok () ↔ 0 ≤ v ∧ v ≤ max := by
  unfold checkIndex
  split
  · next houtside => exact iff_of_false (by simp) (by omega)
  · next hinside => exact iff_of_true rfl (by omega)

theorem inRange_of_validate {kind : FieldKind} {field : String} {v : Int} {lim lim' : Limits} (hle : lim.Le lim')
    (hvalid : kind.validate field v lim = .ok ()) : kind.InRange lim' v := by
  cases kind with
  | frame =>
      have hbounds := checkIndex_eq_ok_iff.mp hvalid
      exact ⟨hbounds.1, Int.le_trans hbounds.2 hle.frames⟩
  | sound =>
      have hbounds := checkIndex_eq_ok_iff.mp hvalid
      exact ⟨hbounds.1, Int.le_trans hbounds.2 hle.sounds⟩
  | sprite =>
      have hbounds := checkIndex_eq_ok_iff.mp hvalid
      exact ⟨hbounds.1, Int.le_trans hbounds.2 hle.sprites⟩
  | subSprite => exact checkIndex_eq_ok_iff.mp hvalid
  | ammo => exact checkIndex_eq_ok_iff.mp hvalid
  | any | nonNegative | positive | bits => trivial

theorem inRange_of_not_refers {kind : FieldKind} (hrefers : kind.refers = false) (lim : Limits) (v : Int) :
    kind.InRange lim v := by
  cases kind with
  | any | nonNegative | positive | bits => trivial
  | frame | sound | sprite | subSprite | ammo => cases hrefers

theorem InRange.mono {kind : FieldKind} {v : Int} {lim lim' : Limits} (hrange : kind.InRange lim v)
    (hle : lim.Le lim') : kind.InRange lim' v := by
  cases kind with
  | frame => exact ⟨hrange.1, Int.le_trans hrange.2 hle.frames⟩
  | sound => exact ⟨hrange.1, Int.le_trans hrange.2 hle.sounds⟩
  | sprite => exact ⟨hrange.1, Int.le_trans hrange.2 hle.sprites⟩
  | subSprite | ammo => exact hrange
  | any | nonNegative | positive | bits => trivial

/-- The null entries of the tables are always in range. -/
theorem inRange_zero {lim : Limits} (hle : Limits.tables.Le lim) (kind : FieldKind) : kind.InRange lim 0 := by
  have htables : kind.InRange Limits.tables 0 := by
    cases kind with
    | frame | sound | sprite | subSprite | ammo => exact ⟨by decide, by decide⟩
    | any | nonNegative | positive | bits => trivial
  exact htables.mono hle

end FieldKind

namespace FieldTable

variable {φ ρ : Type} {table : FieldTable φ ρ} {lim lim' : Limits} {r r' : ρ}

/-- All references of a record are in range. -/
def Within (table : FieldTable φ ρ) (lim : Limits) (r : ρ) : Prop := ∀ f, (table.kind f).InRange lim (table.get f r)

/-- References are stored as they are: none has a mask, and what is written is read. -/
def Faithful (table : FieldTable φ ρ) : Prop :=
  ∀ f, (table.kind f).refers = true → table.mask f = 0 ∧ ∀ v r, table.get f (table.set f v r) = v

theorem Within.mono (hr : table.Within lim r) (hle : lim.Le lim') : table.Within lim' r := fun f => (hr f).mono hle

/-- What does not refer to anything makes no difference. -/
theorem Within.congr (hr : table.Within lim r)
    (hsame : ∀ f, (table.kind f).refers = true → table.get f r' = table.get f r) : table.Within lim r' := by
  intro f
  cases hrefers : (table.kind f).refers with
  | false => exact FieldKind.inRange_of_not_refers hrefers _ _
  | true =>
      rw [hsame f hrefers]
      exact hr f

/-- Storing a number that was checked keeps all references in range. -/
theorem Within.store (hr : table.Within lim' r) (hapart : table.Apart) (hfaithful : table.Faithful) {f : φ} {v : Int}
    (hle : lim.Le lim') (hvalid : table.validate f v lim = .ok ()) : table.Within lim' (table.store f v r) := by
  intro g
  cases hrefers : (table.kind g).refers with
  | false => exact FieldKind.inRange_of_not_refers hrefers _ _
  | true =>
      by_cases hsame : g = f
      · subst hsame
        obtain ⟨hmask, hread⟩ := hfaithful g hrefers
        unfold FieldTable.store
        rw [if_pos hmask, hread]
        exact FieldKind.inRange_of_validate hle hvalid
      · -- Whatever number is stored in the end, it is not read here.
        have hother : table.get g (table.store f v r) = table.get g r := by
          unfold FieldTable.store
          split <;> exact hapart hsame _ r
        rw [hother]
        exact hr g

end FieldTable

theorem ThingField.faithful : table.Faithful := by
  intro f hrefers
  cases f <;> first | exact ⟨rfl, fun _ _ => rfl⟩ | cases hrefers

theorem FrameField.faithful : table.Faithful := by
  intro f hrefers
  cases f <;> first | exact ⟨rfl, fun _ _ => rfl⟩ | cases hrefers

theorem WeaponField.faithful : table.Faithful := by
  intro f hrefers
  cases f <;> first | exact ⟨rfl, fun _ _ => rfl⟩ | cases hrefers

end DoomPatch
