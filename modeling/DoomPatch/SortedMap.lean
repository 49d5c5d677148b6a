/-!
# Maps kept in key order

A `SortedMap` is a finite map stored as one list of entries with strictly ascending keys.  The order is
part of the type, so two maps with the same look-ups are equal, and every listing of a map (modified
entities, replaced strings, stored digests) comes out in ascending order without a sorting pass.

* `get?`, `insert`, `erase` — the operations; `insert` replaces the value of a key that is present.
* `get?_insert_self`, `get?_insert_of_ne`, `get?_erase_self`, `get?_erase_of_ne` — the map laws.
* `keys_pairwise_lt` — keys are listed in strictly ascending order.
* `mem_keys_iff` — the listed keys are exactly those with a value.
* `get?_eq_some_iff`, `get?_filter` — the values of a map are its entries, and those that are kept.
* `SortedMap.ext_get?` — a map is determined by its look-ups.
-/

namespace DoomPatch

/-- A finite map whose entries are listed by strictly ascending key. -/
structure SortedMap (κ : Type) (α : Type) [Ord κ] where
  /-- The entries, smallest key first. -/
  entries : List (κ × α)
  /-- Keys ascend strictly, so no key occurs twice. -/
  ascending : entries.Pairwise fun a b => compare a.1 b.1 = .lt

namespace SortedMap

variable {κ α : Type} [Ord κ]

/-- Inserts an entry into an ascending list, replacing the entry of the same key. -/
def insertEntry (k : κ) (v : α) : List (κ × α) → List (κ × α)
  | [] => [(k, v)]
  | (k', v') :: rest =>
    match compare k k' with
    | .lt => (k, v) :: (k', v') :: rest
    | .eq => (k, v) :: rest
    | .gt => (k', v') :: insertEntry k v rest

/-- The value stored for a key in a list of entries. -/
def findEntry (k : κ) : List (κ × α) → Option α
  | [] => none
  | (k', v') :: rest => if compare k k' = .eq then some v' else findEntry k rest

/-- Drops the entry of a key from a list of entries. -/
def eraseEntry (k : κ) : List (κ × α) → List (κ × α)
  | [] => []
  | (k', v') :: rest => if compare k k' = .eq then rest else (k', v') :: eraseEntry k rest

/-- An entry of the list after an insertion is the new one or an old one. -/
theorem mem_insertEntry {k : κ} {v : α} {e : κ × α} {l : List (κ × α)}
    (h : e ∈ insertEntry k v l) : e = (k, v) ∨ e ∈ l := by
  induction l with
  | nil => simpa [insertEntry] using h
  | cons hd tl ih =>
    obtain ⟨k', v'⟩ := hd
    rw [insertEntry] at h
    split at h
    · simpa using h
    · rcases List.mem_cons.1 h with h | h
      · exact Or.inl h
      · exact Or.inr (List.mem_cons_of_mem _ h)
    · rcases List.mem_cons.1 h with h | h
      · exact Or.inr (h ▸ List.mem_cons_self)
      · rcases ih h with h | h
        · exact Or.inl h
        · exact Or.inr (List.mem_cons_of_mem _ h)

/-- Erasing only drops entries. -/
theorem eraseEntry_sublist (k : κ) (l : List (κ × α)) : (eraseEntry k l).Sublist l := by
  induction l with
  | nil => exact List.Sublist.refl _
  | cons hd tl ih =>
    obtain ⟨k', v'⟩ := hd
    rw [eraseEntry]
    split
    · exact List.sublist_cons_self _ _
    · exact ih.cons_cons _

/-- Insertion keeps an ascending list ascending. -/
theorem insertEntry_ascending [Std.TransOrd κ] [Std.LawfulEqOrd κ] (k : κ) (v : α) {l : List (κ × α)}
    (h : l.Pairwise fun a b => compare a.1 b.1 = .lt) :
    (insertEntry k v l).Pairwise fun a b => compare a.1 b.1 = .lt := by
  induction l with
  | nil => simp [insertEntry]
  | cons hd tl ih =>
    obtain ⟨k', v'⟩ := hd
    rw [List.pairwise_cons] at h
    rw [insertEntry]
    split
    · next hlt =>
      refine List.pairwise_cons.2 ⟨?_, List.pairwise_cons.2 h⟩
      intro e he
      rcases List.mem_cons.1 he with rfl | he
      · exact hlt
      · exact Std.TransCmp.lt_trans hlt (h.1 e he)
    · next heq =>
      have hk : k = k' := Std.LawfulEqCmp.eq_of_compare heq
      exact List.pairwise_cons.2 ⟨fun e he => hk ▸ h.1 e he, h.2⟩
    · next hgt =>
      refine List.pairwise_cons.2 ⟨?_, ih h.2⟩
      intro e he
      rcases mem_insertEntry he with rfl | he
      · exact Std.OrientedCmp.gt_iff_lt.1 hgt
      · exact h.1 e he

/-- The map without entries. -/
def empty : SortedMap κ α := ⟨[], List.Pairwise.nil⟩

instance : EmptyCollection (SortedMap κ α) := ⟨empty⟩

instance : Inhabited (SortedMap κ α) := ⟨empty⟩

/-- The value of a key. -/
def get? (m : SortedMap κ α) (k : κ) : Option α := findEntry k m.entries

/-- Whether a key has a value. -/
def contains (m : SortedMap κ α) (k : κ) : Bool := (m.get? k).isSome

/-- The keys, ascending. -/
def keys (m : SortedMap κ α) : List κ := m.entries.map Prod.fst

/-- The number of entries. -/
def size (m : SortedMap κ α) : Nat := m.entries.length

/-- Whether there is no entry. -/
def isEmpty (m : SortedMap κ α) : Bool := m.entries.isEmpty

/-- Drops a key. -/
def erase (m : SortedMap κ α) (k : κ) : SortedMap κ α :=
  ⟨eraseEntry k m.entries, m.ascending.sublist (eraseEntry_sublist k _)⟩

/-- Keeps the entries that satisfy a test. -/
def filter (p : κ → α → Bool) (m : SortedMap κ α) : SortedMap κ α :=
  ⟨m.entries.filter fun e => p e.1 e.2, m.ascending.sublist List.filter_sublist⟩

/-- Changes each value or drops its entry. -/
def filterMap {β : Type} (f : α → Option β) (m : SortedMap κ α) : SortedMap κ β where
  entries := m.entries.filterMap fun e => (f e.2).map (e.1, ·)
  ascending := m.ascending.filterMap _ fun a a' h b hb b' hb' => by
    obtain ⟨_, _, rfl⟩ := Option.map_eq_some_iff.1 hb
    obtain ⟨_, _, rfl⟩ := Option.map_eq_some_iff.1 hb'
    exact h

/-- Gives a key a value. -/
def insert [Std.TransOrd κ] [Std.LawfulEqOrd κ] (m : SortedMap κ α) (k : κ) (v : α) : SortedMap κ α :=
  ⟨insertEntry k v m.entries, insertEntry_ascending k v m.ascending⟩

/-- The map of a list of entries; of two entries with one key the later counts. -/
def ofList [Std.TransOrd κ] [Std.LawfulEqOrd κ] (l : List (κ × α)) : SortedMap κ α :=
  l.foldl (fun m e => m.insert e.1 e.2) empty

@[simp] theorem get?_empty (k : κ) : (empty : SortedMap κ α).get? k = none := rfl

theorem findEntry_insertEntry_self [Std.ReflOrd κ] (k : κ) (v : α) (l : List (κ × α)) :
    findEntry k (insertEntry k v l) = some v := by
  induction l with
  | nil => simp [insertEntry, findEntry]
  | cons hd tl ih =>
    obtain ⟨k', v'⟩ := hd
    rw [insertEntry]
    split
    · simp [findEntry]
    · simp [findEntry]
    · next hgt => simp [findEntry, hgt, ih]

theorem findEntry_insertEntry_of_ne [Std.LawfulEqOrd κ] {k k' : κ} (hne : k' ≠ k) (v : α)
    (l : List (κ × α)) :
    findEntry k' (insertEntry k v l) = findEntry k' l := by
  have hcmp : ∀ {a b : κ}, a ≠ b → ¬ compare a b = .eq :=
    fun hab h => hab (Std.LawfulEqCmp.eq_of_compare h)
  induction l with
  | nil => simp [insertEntry, findEntry, hcmp hne]
  | cons hd tl ih =>
    obtain ⟨k₀, v₀⟩ := hd
    rw [insertEntry]
    split
    · simp [findEntry, hcmp hne]
    · next heq =>
      have hk : k = k₀ := Std.LawfulEqCmp.eq_of_compare heq
      subst hk
      simp [findEntry, hcmp hne]
    · simp [findEntry, ih]

/-- Reading the key that was just written gives the written value. -/
@[simp] theorem get?_insert_self [Std.TransOrd κ] [Std.LawfulEqOrd κ] (m : SortedMap κ α) (k : κ)
    (v : α) :
    (m.insert k v).get? k = some v :=
  findEntry_insertEntry_self k v m.entries

/-- Writing one key leaves the others. -/
theorem get?_insert_of_ne [Std.TransOrd κ] [Std.LawfulEqOrd κ] (m : SortedMap κ α) {k k' : κ}
    (hne : k' ≠ k) (v : α) :
    (m.insert k v).get? k' = m.get? k' :=
  findEntry_insertEntry_of_ne hne v m.entries

/-- Reading after a write, in one equation. -/
theorem get?_insert [Std.TransOrd κ] [Std.LawfulEqOrd κ] [DecidableEq κ] (m : SortedMap κ α)
    (k k' : κ) (v : α) :
    (m.insert k v).get? k' = if k' = k then some v else m.get? k' := by
  split
  · next h => rw [h]; exact get?_insert_self m k v
  · next h => exact get?_insert_of_ne m h v

/-- Keys are listed in strictly ascending order. -/
theorem keys_pairwise_lt (m : SortedMap κ α) : m.keys.Pairwise fun a b => compare a b = .lt :=
  List.pairwise_map.2 m.ascending

theorem findEntry_isSome_iff [Std.LawfulEqOrd κ] (k : κ) (l : List (κ × α)) :
    (findEntry k l).isSome ↔ k ∈ l.map Prod.fst := by
  induction l with
  | nil => simp [findEntry]
  | cons hd tl ih =>
    obtain ⟨k', v'⟩ := hd
    rw [findEntry]
    split
    · next h => simp [Std.LawfulEqCmp.eq_of_compare h]
    · next h =>
      have hne : k ≠ k' := fun hk => h (hk ▸ Std.ReflCmp.compare_self)
      simp [ih, hne]

/-- The listed keys are exactly those with a value. -/
theorem mem_keys_iff [Std.LawfulEqOrd κ] (m : SortedMap κ α) (k : κ) : k ∈ m.keys ↔ (m.get? k).isSome :=
  (findEntry_isSome_iff k m.entries).symm

/-- No key below the smallest one has a value. -/
theorem findEntry_eq_none_of_lt {k : κ} {l : List (κ × α)} (h : ∀ e ∈ l, compare k e.1 = .lt) :
    findEntry k l = none := by
  induction l with
  | nil => rfl
  | cons hd tl ih =>
    obtain ⟨k', v'⟩ := hd
    have h0 := h (k', v') List.mem_cons_self
    simp only [findEntry, h0, reduceCtorEq, if_false]
    exact ih fun e he => h e (List.mem_cons_of_mem _ he)

/-- Ascending lists with the same look-ups are equal. -/
theorem entries_eq_of_findEntry_eq [Std.TransOrd κ] [Std.LawfulEqOrd κ] {l₁ l₂ : List (κ × α)}
    (h₁ : l₁.Pairwise fun a b => compare a.1 b.1 = .lt)
    (h₂ : l₂.Pairwise fun a b => compare a.1 b.1 = .lt)
    (h : ∀ k, findEntry k l₁ = findEntry k l₂) : l₁ = l₂ := by
  induction l₁ generalizing l₂ with
  | nil =>
    cases l₂ with
    | nil => rfl
    | cons hd tl => simpa [findEntry] using h hd.1
  | cons a l₁ ih =>
    cases l₂ with
    | nil => simpa [findEntry] using h a.1
    | cons b l₂ =>
      obtain ⟨ka, va⟩ := a
      obtain ⟨kb, vb⟩ := b
      rw [List.pairwise_cons] at h₁ h₂
      have hab : ka = kb := by
        cases hc : compare ka kb with
        | eq => exact Std.LawfulEqCmp.eq_of_compare hc
        | lt =>
          have h0 := h ka
          have hn : findEntry ka ((kb, vb) :: l₂) = none := by
            apply findEntry_eq_none_of_lt
            intro e he
            rcases List.mem_cons.1 he with rfl | he
            · exact hc
            · exact Std.TransCmp.lt_trans hc (h₂.1 e he)
          rw [hn] at h0
          simp [findEntry] at h0
        | gt =>
          have hc' : compare kb ka = .lt := Std.OrientedCmp.gt_iff_lt.1 hc
          have h0 := h kb
          have hn : findEntry kb ((ka, va) :: l₁) = none := by
            apply findEntry_eq_none_of_lt
            intro e he
            rcases List.mem_cons.1 he with rfl | he
            · exact hc'
            · exact Std.TransCmp.lt_trans hc' (h₁.1 e he)
          rw [hn] at h0
          simp [findEntry] at h0
      subst hab
      have hv : va = vb := by simpa [findEntry] using h ka
      subst hv
      congr 1
      refine ih h₁.2 h₂.2 fun k => ?_
      by_cases hk : compare k ka = .eq
      · have hk' : k = ka := Std.LawfulEqCmp.eq_of_compare hk
        subst hk'
        rw [findEntry_eq_none_of_lt h₁.1, findEntry_eq_none_of_lt h₂.1]
      · simpa [findEntry, hk] using h k

/-- Maps with the same entries are equal. -/
theorem eq_of_entries_eq {m₁ m₂ : SortedMap κ α} (h : m₁.entries = m₂.entries) : m₁ = m₂ := by
  cases m₁; cases m₂; cases h; rfl

/-- A map is determined by its look-ups. -/
theorem ext_get? [Std.TransOrd κ] [Std.LawfulEqOrd κ] {m₁ m₂ : SortedMap κ α}
    (h : ∀ k, m₁.get? k = m₂.get? k) : m₁ = m₂ :=
  eq_of_entries_eq (entries_eq_of_findEntry_eq m₁.ascending m₂.ascending h)

/-- An erased key has no value. -/
@[simp] theorem get?_erase_self [Std.TransOrd κ] [Std.LawfulEqOrd κ] (m : SortedMap κ α) (k : κ) :
    (m.erase k).get? k = none := by
  obtain ⟨l, hl⟩ := m
  show findEntry k (eraseEntry k l) = none
  induction l with
  | nil => rfl
  | cons hd tl ih =>
    obtain ⟨k', v'⟩ := hd
    rw [List.pairwise_cons] at hl
    rw [eraseEntry]
    split
    · next h =>
      have hk : k = k' := Std.LawfulEqCmp.eq_of_compare h
      exact findEntry_eq_none_of_lt (hk ▸ hl.1)
    · next h => simpa [findEntry, h] using ih hl.2

/-- Erasing one key leaves the others. -/
theorem get?_erase_of_ne [Std.LawfulEqOrd κ] (m : SortedMap κ α) {k k' : κ} (hne : k' ≠ k) :
    (m.erase k).get? k' = m.get? k' := by
  obtain ⟨l, hl⟩ := m
  show findEntry k' (eraseEntry k l) = findEntry k' l
  clear hl
  induction l with
  | nil => rfl
  | cons hd tl ih =>
    obtain ⟨k₀, v₀⟩ := hd
    rw [eraseEntry]
    split
    · next h =>
      have hk : k = k₀ := Std.LawfulEqCmp.eq_of_compare h
      have hne' : ¬ compare k' k₀ = .eq := fun h' => hne ((Std.LawfulEqCmp.eq_of_compare h').trans hk.symm)
      simp [findEntry, hne']
    · simp [findEntry, ih]

instance [DecidableEq κ] [DecidableEq α] : DecidableEq (SortedMap κ α) := fun m₁ m₂ =>
  if h : m₁.entries = m₂.entries then isTrue (eq_of_entries_eq h)
  else isFalse fun he => h (he ▸ rfl)

theorem findEntry_eq_some_iff [Std.LawfulEqOrd κ] {k : κ} {v : α} {l : List (κ × α)}
    (hl : l.Pairwise fun a b => compare a.1 b.1 = .lt) : findEntry k l = some v ↔ (k, v) ∈ l := by
  induction l with
  | nil => simp [findEntry]
  | cons e l ih =>
      obtain ⟨k', v'⟩ := e
      rw [List.pairwise_cons] at hl
      rw [findEntry, List.mem_cons, Prod.mk.injEq]
      by_cases heq : compare k k' = .eq
      · -- No other entry has the key of the first one.
        have hk : k = k' := Std.LawfulEqCmp.eq_of_compare heq
        subst hk
        have hlater : (k, v) ∉ l := by
          intro hmem
          have hlt : compare k k = .lt := hl.1 _ hmem
          rw [heq] at hlt
          cases hlt
        simp [hlater, eq_comm]
      · have hne : k ≠ k' := fun hk => heq (hk ▸ Std.ReflCmp.compare_self)
        simp [heq, hne, ih hl.2]

/-- The values of a map are its entries. -/
theorem get?_eq_some_iff [Std.LawfulEqOrd κ] {m : SortedMap κ α} {k : κ} {v : α} :
    m.get? k = some v ↔ (k, v) ∈ m.entries :=
  findEntry_eq_some_iff m.ascending

theorem get?_filter [Std.LawfulEqOrd κ] (p : κ → α → Bool) (m : SortedMap κ α) (k : κ) :
    (m.filter p).get? k = (m.get? k).filter (p k) := by
  ext v
  rw [get?_eq_some_iff, Option.filter_eq_some_iff, get?_eq_some_iff]
  exact List.mem_filter

end SortedMap
end DoomPatch
