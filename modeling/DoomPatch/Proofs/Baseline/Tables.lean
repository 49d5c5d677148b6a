import DoomPatch.Baseline

/-!
# Facts about the tables

What every record of the unpatched game has in common.  Each fact is checked once over a whole table.

* `mem_of_at?` — a record that is found by its number is an entry of its table.
* `bounds_of_at?`, `exists_of_bounds` — the numbers of entries are those below the size of the table.
* `isSome_thing?`, `isSome_weapon?` — so whether an entity exists can be told from its number alone.
* `args_nonpos_of_frame?` — no frame of the tables names a thing in its arguments.
-/

namespace DoomPatch
namespace Baseline

theorem mem_of_at? {α : Type} {table : Array α} {id : Int} {a : α} (hentry : at? table id = some a) :
    a ∈ table.toList := by
  unfold at? at hentry
  split at hentry
  · exact Array.mem_toList_iff.2 (Array.mem_of_getElem? hentry)
  · cases hentry

/-- A number with a table entry is below the size of the table. -/
theorem bounds_of_at? {α : Type} {table : Array α} {id : Int} {a : α}
    (hentry : at? table id = some a) : 0 ≤ id ∧ id < table.size := by
  unfold at? at hentry
  by_cases hid : 0 ≤ id
  · rw [if_pos hid] at hentry
    have hlt : id.toNat < table.size := (Array.getElem?_eq_some_iff.1 hentry).1
    omega
  · rw [if_neg hid] at hentry
    cases hentry

/-- Every number below the size of the table has an entry. -/
theorem exists_of_bounds {α : Type} {table : Array α} {id : Int} (hlow : 0 ≤ id) (hhigh : id < table.size) :
    ∃ a, at? table id = some a := by
  unfold at?
  rw [if_pos hlow]
  exact ⟨_, Array.getElem?_eq_getElem (by omega)⟩

theorem size_things : things.size = numThings := by
  rw [things, List.size_toArray, List.length_append, List.length_append]
  rfl

theorem size_weapons : weapons.size = numWeapons := rfl

theorem isSome_thing? {id : Int} (hid : 0 ≤ id ∧ id < numThings) : (thing? id).isSome := by
  rw [← size_things] at hid
  exact Option.isSome_iff_exists.2 (exists_of_bounds hid.1 hid.2)

theorem isSome_weapon? {id : Int} (hid : 0 ≤ id ∧ id < numWeapons) : (weapon? id).isSome := by
  rw [← size_weapons] at hid
  exact Option.isSome_iff_exists.2 (exists_of_bounds hid.1 hid.2)

set_option maxRecDepth 4000 in
/-- No frame of the tables names a thing in its arguments. -/
theorem args_nonpos_of_frame? {id : Int} {f : Frame} (hframe : frame? id = some f) : f.arg 0 ≤ 0 ∧ f.misc1 ≤ 0 := by
  have hall : ∀ e ∈ frames.toList, e.frame.arg 0 ≤ 0 ∧ e.frame.misc1 ≤ 0 := by decide
  obtain ⟨e, hentry, rfl⟩ := Option.map_eq_some_iff.1 hframe
  exact hall e (mem_of_at? hentry)

end Baseline
end DoomPatch
