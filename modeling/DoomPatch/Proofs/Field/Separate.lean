import DoomPatch.Field.Ammo
import DoomPatch.Field.Frame
import DoomPatch.Field.Misc
import DoomPatch.Field.Sound
import DoomPatch.Field.Thing
import DoomPatch.Field.Weapon

/-!
# Fields do not overlap

Two fields of a record are kept in different places, so it does not matter which is written first.

* `FieldTable.Separate` — different fields can be written in either order.
* `FieldTable.Separate.store_comm` — the same of numbers that are stored with the bits of a mask left out.
* `ThingField.separate`, … — it holds of all six tables.
* `FieldTable.Apart`, `ThingField.apart`, … — what is written to a field is read in no other.
-/

namespace DoomPatch

/-- Different fields can be written in either order. -/
def FieldTable.Separate {φ ρ : Type} (table : FieldTable φ ρ) : Prop :=
  ∀ ⦃f g : φ⦄, f ≠ g → ∀ (v w : Int) (r : ρ), table.set g w (table.set f v r) = table.set f v (table.set g w r)

/-- Storing is writing some number, whether or not the field has a mask. -/
theorem FieldTable.exists_store_eq_set {φ ρ : Type} (table : FieldTable φ ρ) (f : φ) (v : Int) :
    ∃ n, ∀ r, table.store f v r = table.set f n r := by
  unfold FieldTable.store
  by_cases hmask : table.mask f = 0
  · exact ⟨v, fun r => if_pos hmask⟩
  · exact ⟨_, fun r => if_neg hmask⟩

theorem FieldTable.Separate.store_comm {φ ρ : Type} {table : FieldTable φ ρ} (hseparate : table.Separate) {f g : φ}
    (hne : f ≠ g) (v w : Int) (r : ρ) :
    table.store g w (table.store f v r) = table.store f v (table.store g w r) := by
  obtain ⟨n, hf⟩ := table.exists_store_eq_set f v
  obtain ⟨k, hg⟩ := table.exists_store_eq_set g w
  rw [hf, hg, hg, hf, hseparate hne]

/-- A value with one place for each field of a record: different fields are in different places. -/
theorem ite_ite_comm {φ α : Type} [DecidableEq φ] {f g : φ} (hne : f ≠ g) (c : φ) (a b x : α) :
    (if g = c then b else if f = c then a else x) = if f = c then a else if g = c then b else x := by
  split
  · next hg => rw [if_neg fun hf => hne (hf.trans hg.symm)]
  · rfl

namespace ThingField

/-- Each field of a thing is written in a place of its own. -/
theorem set_eq (f : ThingField) (v : Int) (t : Thing) :
    f.set v t = {
      name := t.name
      doomedNum := if f = .doomedNum then v else t.doomedNum
      spawn := if f = .spawn then v else t.spawn
      see := if f = .see then v else t.see
      melee := if f = .melee then v else t.melee
      missile := if f = .missile then v else t.missile
      pain := if f = .pain then v else t.pain
      death := if f = .death then v else t.death
      xdeath := if f = .xdeath then v else t.xdeath
      raise := if f = .raise then v else t.raise
      seeSound := if f = .seeSound then v else t.seeSound
      attackSound := if f = .attackSound then v else t.attackSound
      painSound := if f = .painSound then v else t.painSound
      deathSound := if f = .deathSound then v else t.deathSound
      activeSound := if f = .activeSound then v else t.activeSound
      ripSound := if f = .ripSound then v else t.ripSound
      health := if f = .health then v else t.health
      reaction := if f = .reaction then v else t.reaction
      painChance := if f = .painChance then v else t.painChance
      speed := if f = .speed then v else t.speed
      radius := if f = .radius then v else t.radius
      height := if f = .height then v else t.height
      mass := if f = .mass then v else t.mass
      damage := if f = .damage then v else t.damage
      flags := if f = .flags then Word.low32 v else t.flags
      mbf21 := if f = .mbf21 then Word.low32 v else t.mbf21
      infightGroup := if f = .infightGroup then Thing.ofRaw v else t.infightGroup
      projectileGroup := if f = .projectileGroup then Thing.ofRaw v else t.projectileGroup
      splashGroup := if f = .splashGroup then Thing.ofRaw v else t.splashGroup
      fastSpeed := if f = .fastSpeed then Thing.ofRaw v else t.fastSpeed
      meleeRange := if f = .meleeRange then Thing.ofRaw v else t.meleeRange
      player := t.player
      gibHealth := if f = .gibHealth then v else t.gibHealth
      dropped := if f = .dropped then v else t.dropped
      blood := if f = .blood then v else t.blood } := by
  cases f <;> rfl

theorem separate : table.Separate := by
  intro f g hne v w t
  -- Field by field of the record: going through pairs of fields instead would be a thousand cases.
  change g.set w (f.set v t) = f.set v (g.set w t)
  simp only [set_eq, ite_ite_comm hne]

end ThingField

theorem FrameField.separate : table.Separate := by
  intro f g hne v w r
  cases f with
  | arg n =>
      cases g with
      | arg k =>
          have hplace : n.val ≠ k.val := fun heq => hne (congrArg FrameField.arg (Fin.ext heq))
          change ({ r with args := (r.args.set n v).set k w } : Frame) = { r with args := (r.args.set k w).set n v }
          rw [Vector.set_comm v w hplace]
      | _ => rfl
  | _ =>
      cases g with
      | arg k => rfl
      | _ => first | rfl | exact absurd rfl hne

theorem WeaponField.separate : table.Separate := by
  intro f g hne v w r
  cases f <;> cases g <;> first | rfl | exact absurd rfl hne

theorem AmmoField.separate : table.Separate := by
  intro f g hne v w r
  cases f <;> cases g <;> first | rfl | exact absurd rfl hne

theorem SoundField.separate : table.Separate := by
  intro f g hne v w r
  cases f <;> cases g <;> first | rfl | exact absurd rfl hne

theorem MiscField.separate : table.Separate := by
  intro f g hne v w r
  cases f <;> cases g <;> first | rfl | exact absurd rfl hne

/-! ### Reading the other fields -/

/-- A field that is written is read in no other field. -/
def FieldTable.Apart {φ ρ : Type} (table : FieldTable φ ρ) : Prop :=
  ∀ ⦃f g : φ⦄, g ≠ f → ∀ (v : Int) (r : ρ), table.get g (table.set f v r) = table.get g r

theorem ThingField.apart : table.Apart := by
  intro f g hne v t
  change g.get (f.set v t) = g.get t
  rw [set_eq]
  cases g <;> simp only [get, if_neg hne.symm]

theorem FrameField.apart : table.Apart := by
  intro f g hne v r
  cases f with
  | arg n =>
      cases g with
      | arg k =>
          have hplace : n.val ≠ k.val := fun heq => hne (congrArg FrameField.arg (Fin.ext heq.symm))
          exact Vector.getElem_set_ne n.isLt k.isLt hplace
      | _ => rfl
  | _ => cases g <;> first | rfl | exact absurd rfl hne

theorem WeaponField.apart : table.Apart := by
  intro f g hne v r
  cases f <;> cases g <;> first | rfl | exact absurd rfl hne

theorem AmmoField.apart : table.Apart := by
  intro f g hne v r
  cases f <;> cases g <;> first | rfl | exact absurd rfl hne

theorem SoundField.apart : table.Apart := by
  intro f g hne v r
  cases f <;> cases g <;> first | rfl | exact absurd rfl hne

theorem MiscField.apart : table.Apart := by
  intro f g hne v r
  cases f <;> cases g <;> first | rfl | exact absurd rfl hne

end DoomPatch
