import DoomPatch.SortedMap

/-!
# Look-ups in maps

* `get?_filterMap` — look-ups after entries were dropped or changed.
* `get?_ofList_of_mem`, `get?_ofList_of_not_mem` — look-ups in the map of a list whose keys are different.
-/

namespace DoomPatch
namespace SortedMap

variable {κ α β : Type} [Ord κ] [Std.LawfulEqOrd κ]

theorem isEmpty_eq_false {m : SortedMap κ α} {k : κ} {v : α} (hget : m.get? k = some v) : m.isEmpty = false := by
  have hmem := get?_eq_some_iff.1 hget
  unfold isEmpty
  rw [List.isEmpty_eq_false_iff]
  exact List.ne_nil_of_mem hmem

theorem get?_filterMap (f : α → Option β) (m : SortedMap κ α) (k : κ) :
    (m.filterMap f).get? k = (m.get? k).bind f := by
  ext b
  rw [get?_eq_some_iff, Option.bind_eq_some_iff]
  constructor
  · intro hmem
    obtain ⟨⟨k', v⟩, hentry, hv⟩ := List.mem_filterMap.1 hmem
    obtain ⟨b', hb, hpair⟩ := Option.map_eq_some_iff.1 hv
    obtain ⟨rfl, rfl⟩ := Prod.mk.inj hpair
    exact ⟨v, get?_eq_some_iff.2 hentry, hb⟩
  · rintro ⟨v, hget, hv⟩
    exact List.mem_filterMap.2 ⟨(k, v), get?_eq_some_iff.1 hget, by simp [hv]⟩

theorem nodup_keys (m : SortedMap κ α) : m.keys.Nodup := by
  refine m.keys_pairwise_lt.imp ?_
  rintro a b hlt rfl
  have hself : compare a a = .eq := Std.ReflCmp.compare_self
  rw [hself] at hlt
  cases hlt

variable [Std.TransOrd κ]

theorem get?_foldl_insert_of_not_mem {k : κ} {l : List (κ × α)} (hk : k ∉ l.map Prod.fst) (m : SortedMap κ α) :
    (l.foldl (fun m e => m.insert e.1 e.2) m).get? k = m.get? k := by
  induction l generalizing m with
  | nil => rfl
  | cons e l ih =>
      rw [List.map_cons, List.mem_cons, not_or] at hk
      rw [List.foldl_cons, ih hk.2, get?_insert_of_ne m hk.1]

theorem get?_ofList_of_not_mem {k : κ} {l : List (κ × α)} (hk : k ∉ l.map Prod.fst) : (ofList l).get? k = none :=
  get?_foldl_insert_of_not_mem hk empty

theorem get?_ofList_of_mem {k : κ} {v : α} {l : List (κ × α)} (hl : (l.map Prod.fst).Nodup) (hmem : (k, v) ∈ l) :
    (ofList l).get? k = some v := by
  have hfold : ∀ m : SortedMap κ α, (l.foldl (fun m e => m.insert e.1 e.2) m).get? k = some v := by
    induction l with
    | nil => cases hmem
    | cons e l ih =>
        intro m
        rw [List.map_cons, List.nodup_cons] at hl
        rcases List.mem_cons.1 hmem with rfl | hmem
        · rw [List.foldl_cons, get?_foldl_insert_of_not_mem hl.1, get?_insert_self]
        · exact ih hl.2 hmem _
  exact hfold empty

/-- A map is the map of its entries. -/
theorem ofList_entries (m : SortedMap κ α) : ofList m.entries = m := by
  refine ext_get? fun k => ?_
  cases hget : m.get? k with
  | some v => exact get?_ofList_of_mem m.nodup_keys (get?_eq_some_iff.1 hget)
  | none =>
      refine get?_ofList_of_not_mem fun hmem => ?_
      have hsome := (mem_keys_iff m k).1 hmem
      rw [hget] at hsome
      cases hsome

end SortedMap
end DoomPatch
