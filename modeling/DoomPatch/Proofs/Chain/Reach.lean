import DoomPatch.Proofs.Chain.Locality

/-!
# Which frames a chain reaches

A chain contains a frame exactly if following leads to it.  Before a frame is met for the first time nothing of
it has been read, so what it says does not decide who reaches it.

* `Path.cut` — a stretch through a frame can be cut where the frame is met for the first time.
* `mem_chain_iff` — a chain contains a frame exactly if a stretch that does not meet it yet leads to it.
* `mem_chain_iff_visited?` — it contains a frame exactly if the frame is visited at some time.
* `mem_chain_iff_of_eq_off` — two reels that differ in one frame only have the same chains through it.
* `mem_chain_iff_of_eq_off_two` — a second frame may differ too, if it cannot be reached.
-/

namespace DoomPatch
namespace Reel

namespace Path

variable {r r' : Reel} {start stop : Int} {ids : List Int}

/-- A stretch through a frame can be cut where the frame is met for the first time. -/
theorem cut (hpath : r.Path start ids stop) {id : Int} (hmem : id ∈ ids) :
    ∃ front, r.Path start front id ∧ id ∉ front ∧ ∀ x ∈ front, x ∈ ids := by
  induction hpath with
  | nil => simp at hmem
  | @snoc ids last f hpath hne hframe ih =>
      by_cases hearly : id ∈ ids
      · obtain ⟨front, hfront, hfresh, hsub⟩ := ih hearly
        exact ⟨front, hfront, hfresh, fun x hx => List.mem_append_left _ (hsub x hx)⟩
      · -- The frame is the last one, and the stretch before it has not met it.
        have hlast : id = last := by simpa [hearly] using hmem
        subst hlast
        exact ⟨ids, hpath, hearly, fun x hx => List.mem_append_left _ hx⟩

theorem ne_zero (hpath : r.Path start ids stop) {id : Int} (hmem : id ∈ ids) : id ≠ 0 :=
  ((shown?_eq_some_iff r).1 (hpath.shown?_of_mem hmem)).2.1

/-- A stretch is one of every reel that has the same frames on it. -/
theorem congr (hpath : r.Path start ids stop) (hsame : ∀ id ∈ ids, r'.frame? id = r.frame? id) :
    r'.Path start ids stop := by
  induction hpath with
  | nil => exact .nil
  | @snoc ids id f hpath hne hframe ih =>
      have hfront := ih fun x hx => hsame x (List.mem_append_left _ hx)
      have hlast : r'.frame? id = some f := (hsame id (by simp)).trans hframe
      exact .snoc hfront hne hlast

/-- What a stretch leads to is on the chain, or ends it. -/
theorem beside (hpath : r.Path start ids stop) : r.Beside start stop := by
  induction hpath with
  | nil => exact r.beside_start start
  | @snoc ids id f hpath hne hframe ih =>
      rcases ih with hmem | hnull | hnone
      · exact beside_next hmem hframe
      · exact absurd hnull hne
      · rw [hnone] at hframe
        cases hframe

end Path

/-- A stretch leads to a number without meeting it before. -/
def Leads (r : Reel) (start id : Int) : Prop := ∃ ids, r.Path start ids id ∧ id ∉ ids

/-- A chain contains a frame exactly if a stretch that does not meet it yet leads to it. -/
theorem mem_chain_iff (r : Reel) {start id : Int} :
    id ∈ r.chain start ↔ r.Leads start id ∧ id ≠ 0 ∧ (r.frame? id).isSome := by
  constructor
  · intro hmem
    have hpath : (∃ ids, r.Path start ids id) ∧ id ≠ 0 ∧ (r.frame? id).isSome := by
      refine of_mem_walk (fun id => ∃ ids, r.Path start ids id) ?_ ⟨[], .nil⟩ hmem
      rintro id f ⟨ids, hpath⟩ hne hframe
      exact ⟨ids ++ [id], hpath.snoc hne hframe⟩
    obtain ⟨⟨ids, hpath⟩, hexists⟩ := hpath
    refine ⟨?_, hexists⟩
    by_cases hmet : id ∈ ids
    · obtain ⟨front, hfront, hfresh, -⟩ := hpath.cut hmet
      exact ⟨front, hfront, hfresh⟩
    · exact ⟨ids, hpath, hmet⟩
  · rintro ⟨⟨ids, hpath, -⟩, hne, hframe⟩
    rcases hpath.beside with hmem | hnull | hnone
    · exact hmem
    · exact absurd hnull hne
    · rw [hnone] at hframe
      cases hframe

theorem exists_path_of_visited? {r : Reel} {start id : Int} {n : Nat} (hvisited : r.visited? start n = some id) :
    (∃ ids, r.Path start ids id) ∧ id ≠ 0 ∧ (r.frame? id).isSome := by
  induction n generalizing id with
  | zero =>
      obtain ⟨rfl, hexists⟩ := (r.shown?_eq_some_iff).1 hvisited
      exact ⟨⟨[], .nil⟩, hexists⟩
  | succ n ih =>
      obtain ⟨before, hbefore, hnext⟩ := Option.bind_eq_some_iff.1 hvisited
      obtain ⟨f, hframe, hshown⟩ := Option.bind_eq_some_iff.1 hnext
      obtain ⟨⟨ids, hpath⟩, hne, -⟩ := ih hbefore
      obtain ⟨rfl, hexists⟩ := (r.shown?_eq_some_iff).1 hshown
      exact ⟨⟨_, hpath.snoc hne hframe⟩, hexists⟩

/-- A chain lists the frames that are visited at some time. -/
theorem mem_chain_iff_visited? {r : Reel} {start id : Int} :
    id ∈ r.chain start ↔ ∃ n, r.visited? start n = some id := by
  constructor
  · intro hmem
    obtain ⟨⟨ids, hpath, -⟩, hne, hframe⟩ := (r.mem_chain_iff).1 hmem
    refine ⟨ids.length, ?_⟩
    rw [hpath.visited?_length]
    exact (r.shown?_eq_some_iff).2 ⟨rfl, hne, hframe⟩
  · rintro ⟨n, hvisited⟩
    obtain ⟨⟨ids, hpath⟩, hne, hframe⟩ := exists_path_of_visited? hvisited
    rcases hpath.beside with hmem | hnull | hnone
    · exact hmem
    · exact absurd hnull hne
    · rw [hnone] at hframe
      cases hframe

/-- Half of the following statements: a stretch to `x` survives if what differs is `x` itself, or a frame `y`
that the start cannot reach. -/
theorem Leads.of_eq_off {r r' q : Reel} {start x y : Int} (hleads : r.Leads start x)
    (hsame : ∀ id, id ≠ x → id ≠ y → r'.frame? id = r.frame? id ∧ q.frame? id = r.frame? id)
    (hy : (q.frame? y).isSome) (hoff : y ∉ q.chain start) : r'.Leads start x := by
  obtain ⟨ids, hpath, hfresh⟩ := hleads
  have hpass : y ∉ ids := by
    intro hmet
    obtain ⟨front, hfront, hfirst, hsub⟩ := hpath.cut hmet
    -- Up to `y` the stretch reads neither of the two frames, so `q` has it too.
    have hq : q.Path start front y := by
      refine hfront.congr fun id hid => (hsame id ?_ ?_).2
      · exact fun heq => hfresh (heq ▸ hsub id hid)
      · exact fun heq => hfirst (heq ▸ hid)
    exact hoff ((mem_chain_iff q).2 ⟨⟨front, hq, hfirst⟩, hpath.ne_zero hmet, hy⟩)
  refine ⟨ids, hpath.congr fun id hid => (hsame id ?_ ?_).1, hfresh⟩
  · exact fun heq => hfresh (heq ▸ hid)
  · exact fun heq => hpass (heq ▸ hid)

/-- Two reels that differ in one frame only have the same chains through it, whatever the frame names next. -/
theorem mem_chain_iff_of_eq_off {r r' : Reel} {start x : Int} (hx : (r.frame? x).isSome)
    (hx' : (r'.frame? x).isSome) (hsame : ∀ id, id ≠ x → r'.frame? id = r.frame? id) :
    x ∈ r'.chain start ↔ x ∈ r.chain start := by
  have hleads : ∀ {r r' : Reel}, (∀ id, id ≠ x → r'.frame? id = r.frame? id) →
      r.Leads start x → r'.Leads start x := by
    rintro r r' hsame ⟨ids, hpath, hfresh⟩
    exact ⟨ids, hpath.congr fun id hid => hsame id fun heq => hfresh (heq ▸ hid), hfresh⟩
  rw [mem_chain_iff, mem_chain_iff]
  constructor
  · rintro ⟨h, hne, -⟩
    exact ⟨hleads (fun id hid => (hsame id hid).symm) h, hne, hx⟩
  · rintro ⟨h, hne, -⟩
    exact ⟨hleads hsame h, hne, hx'⟩

/-- Two reels that differ in two frames only have the same chains through the first, for starts that do not reach
the second.  Whether they reach it can be told from any reel that has the second and differs nowhere else. -/
theorem mem_chain_iff_of_eq_off_two {r r' q : Reel} {start x y : Int} (hx : (r.frame? x).isSome)
    (hx' : (r'.frame? x).isSome)
    (hsame : ∀ id, id ≠ x → id ≠ y → r'.frame? id = r.frame? id ∧ q.frame? id = r.frame? id)
    (hy : (q.frame? y).isSome) (hoff : y ∉ q.chain start) :
    x ∈ r'.chain start ↔ x ∈ r.chain start := by
  have hback : ∀ id, id ≠ x → id ≠ y → r.frame? id = r'.frame? id ∧ q.frame? id = r'.frame? id := by
    intro id hne hne'
    obtain ⟨hframe, hq⟩ := hsame id hne hne'
    exact ⟨hframe.symm, hq.trans hframe.symm⟩
  rw [mem_chain_iff, mem_chain_iff]
  constructor
  · rintro ⟨h, hne, -⟩
    exact ⟨h.of_eq_off hback hy hoff, hne, hx⟩
  · rintro ⟨h, hne, -⟩
    exact ⟨h.of_eq_off hsame hy hoff, hne, hx'⟩

end Reel
end DoomPatch
