import DoomPatch.Store.Path

/-!
# Places below one another

Which place a path names depends on the working directory, so places are compared by the names that lead to them from
the top.

* `join_eq_child` — joining a plain name leads to its place in the directory.
* `Path.Above`, `Path.Apart` — places on one way, and places of which neither is on the way to the other.
* `join_append` — texts that differ only in a plain ending lead into one directory.
-/

namespace DoomPatch.Path

variable {home : List String} {p q : Path} {name : String}

/-- The second place is the first, or below it. -/
def Above (home : List String) (p q : Path) : Prop := p.names home <+: q.names home

instance (home : List String) (p q : Path) : Decidable (Above home p q) := inferInstanceAs (Decidable (_ <+: _))

/-- Neither place is on the way to the other. -/
def Apart (home : List String) (p q : Path) : Prop := ¬Above home p q ∧ ¬Above home q p

instance (home : List String) (p q : Path) : Decidable (Apart home p q) := inferInstanceAs (Decidable (_ ∧ _))

/-- The directory from which the path goes down. -/
def base (p : Path) : Path := { p with parts := [] }

/-- The place, and every place on the way, has a name that a disk takes. -/
def Nameable (p : Path) : Prop := ∀ q ∈ p.trail, q.isShort = true ∧ isWritable q.text = true

instance (p : Path) : Decidable p.Nameable := inferInstanceAs (Decidable (∀ q ∈ p.trail, _))

/-- A disk can follow the written path, if what it names is there. -/
def Passable (p : Path) : Prop := isWritable p.text = true ∧ ∀ q ∈ p.trail, q.isShort = true

instance (p : Path) : Decidable p.Passable := inferInstanceAs (Decidable (_ ∧ _))

theorem Above.trans {r : Path} (hpq : Above home p q) (hqr : Above home q r) : Above home p r :=
  List.IsPrefix.trans hpq hqr

theorem above_of_names_eq (heq : p.names home = q.names home) : Above home p q :=
  ⟨[], by rw [List.append_nil, heq]⟩

/-! ## Names in a directory -/

@[simp] theorem names_child (home : List String) (p : Path) (name : String) :
    (p.child name).names home = p.names home ++ [name] := by
  unfold names child
  rw [List.append_assoc]

@[simp] theorem parent_child (p : Path) (name : String) : (p.child name).parent = p := by
  simp [parent, child]

theorem exists_child (hp : p.parts ≠ []) : ∃ dir name, p = child dir name := by
  refine ⟨{ p with parts := p.parts.dropLast }, p.parts.getLast hp, ?_⟩
  unfold child
  dsimp only
  rw [List.dropLast_concat_getLast]

theorem base_above (home : List String) (p : Path) : Above home p.base p := by
  unfold Above names base
  rw [List.append_nil]
  exact List.prefix_append _ _

theorem not_above_base (home : List String) (hp : p.parts ≠ []) : ¬Above home p p.base := by
  intro habove
  have hlength := habove.length_le
  simp only [names, base, List.length_append, List.length_nil] at hlength
  exact hp (List.eq_nil_of_length_eq_zero (by omega))

theorem above_child (home : List String) (p : Path) (name : String) : Above home p (p.child name) := by
  rw [Above, names_child]
  exact List.prefix_append _ _

theorem above_child_iff : Above home q (p.child name) ↔ q.names home = (p.child name).names home ∨ Above home q p := by
  rw [Above, names_child, List.prefix_concat_iff]
  rfl

/-- Different names in one directory stand for places apart. -/
theorem child_apart_child {name' : String} (hne : name ≠ name') : Apart home (p.child name) (p.child name') := by
  have hnames : ∀ {a b : String}, a ≠ b → ¬Above home (p.child a) (p.child b) := by
    intro a b hab habove
    rw [Above, names_child, names_child] at habove
    have heq := habove.eq_of_length (by simp)
    exact hab (by simpa using heq)
  exact ⟨hnames hne, hnames hne.symm⟩

theorem trail_child (p : Path) (name : String) : (p.child name).trail = p.trail ++ [p.child name] := by
  have hbefore : ∀ n ∈ List.range p.parts.length,
      ({ p.child name with parts := (p.child name).parts.take (n + 1) } : Path) =
        { p with parts := p.parts.take (n + 1) } := by
    intro n hn
    have hlt : n + 1 ≤ p.parts.length := List.mem_range.1 hn
    simp only [child, List.take_append_of_le_length hlt]
  unfold trail
  rw [show (p.child name).parts.length = p.parts.length + 1 by simp [child], List.range_succ, List.map_append,
    List.map_congr_left hbefore]
  simp [child, List.take_of_length_le]

theorem child_mem_trail (p : Path) (name : String) : p.child name ∈ (p.child name).trail := by
  rw [trail_child]
  exact List.mem_append_right _ (List.mem_singleton_self _)

theorem Nameable.of_child (h : (p.child name).Nameable) : p.Nameable := by
  intro q hq
  exact h q (by rw [trail_child]; exact List.mem_append_left _ hq)

theorem Nameable.passable (h : (p.child name).Nameable) : (p.child name).Passable :=
  ⟨(h _ (child_mem_trail p name)).2, fun q hq => (h q hq).1⟩

theorem above_of_mem_trail (hq : q ∈ p.trail) : Above home q p := by
  obtain ⟨n, -, rfl⟩ := List.mem_map.1 hq
  unfold Above names
  dsimp only
  rw [List.prefix_append_right_inj]
  exact List.take_prefix _ _

theorem mem_trail_self (hp : p.parts ≠ []) : p ∈ p.trail := by
  obtain ⟨dir, name, rfl⟩ := exists_child hp
  exact child_mem_trail dir name

theorem names_ne_of_mem_trail (hq : q ∈ p.trail) (name : String) : q.names home ≠ (p.child name).names home := by
  intro heq
  have hlength := (above_of_mem_trail hq : Above home q p).length_le
  rw [heq, names_child, List.length_append] at hlength
  exact absurd hlength (Nat.not_succ_le_self _)

/-! ## Joining -/

theorem pieces_ne_nil (cs : List Char) : pieces cs ≠ [] := by
  cases cs with
  | nil => exact List.cons_ne_nil _ _
  | cons c cs =>
      unfold pieces
      split
      · exact List.cons_ne_nil _ _
      · split <;> exact List.cons_ne_nil _ _

/-- What has no slash belongs to the last piece of the text it stands behind. -/
theorem pieces_append (cs : List Char) {ds : List Char} (hds : '/' ∉ ds) :
    pieces (cs ++ ds) = (pieces cs).dropLast ++ [(pieces cs).getLastD [] ++ ds] := by
  induction cs with
  | nil =>
      -- Without a slash there is one piece, the text itself.
      induction ds with
      | nil => rfl
      | cons d ds ih =>
          have hd : d ≠ '/' := fun heq => hds (heq ▸ List.mem_cons_self)
          have htail := ih fun hmem => hds (List.mem_cons_of_mem _ hmem)
          rw [List.nil_append] at htail ⊢
          rw [pieces.eq_2, if_neg hd, htail]
          rfl
  | cons c cs ih =>
      obtain ⟨piece, rest, hpieces⟩ := List.exists_cons_of_ne_nil (pieces_ne_nil cs)
      rw [List.cons_append, pieces, pieces, ih, hpieces]
      by_cases hc : c = '/'
      · rw [if_pos hc, if_pos hc]
        rfl
      · rw [if_neg hc, if_neg hc]
        cases rest <;> rfl

/-- A piece that is not made of dots is a name. -/
theorem step_of_not_dots {piece : List Char} (hpiece : ∃ c ∈ piece, c ≠ '.') (p : Path) :
    p.step piece = p.child (String.ofList piece) := by
  obtain ⟨c, hmem, hc⟩ := hpiece
  have hne : ∀ dots : List Char, (∀ c ∈ dots, c = '.') → piece ≠ dots := by
    rintro dots hdots rfl
    exact hc (hdots c hmem)
  unfold step
  rw [if_neg (not_or.2 ⟨hne [] (by simp), hne ['.'] (by simp)⟩), if_neg (hne ['.', '.'] (by simp))]

/-- Texts that differ only in a plain ending lead into one directory, where the ending belongs to the name. -/
theorem join_append (p : Path) (text : String) : ∃ dir : Path, ∃ stem : String, ∀ ending : String,
    '/' ∉ ending.toList → (∃ c ∈ ending.toList, c ≠ '.') → p.join (text ++ ending) = dir.child (stem ++ ending) := by
  refine ⟨(pieces text.toList).dropLast.foldl step p, String.ofList ((pieces text.toList).getLastD []), ?_⟩
  rintro ending hslash ⟨c, hmem, hc⟩
  unfold join
  rw [String.toList_append, pieces_append _ hslash, List.foldl_append, List.foldl_cons, List.foldl_nil,
    step_of_not_dots ⟨c, List.mem_append_right _ hmem, hc⟩, String.ofList_append, String.ofList_toList]

/-- Joining a plain name leads to its place in the directory. -/
theorem join_eq_child (p : Path) (hslash : '/' ∉ name.toList) (hdots : ∃ c ∈ name.toList, c ≠ '.') :
    p.join name = p.child name := by
  have hpieces : pieces name.toList = [name.toList] := pieces_append [] hslash
  unfold join
  rw [hpieces, List.foldl_cons, List.foldl_nil, step_of_not_dots hdots, String.ofList_toList]

end DoomPatch.Path
