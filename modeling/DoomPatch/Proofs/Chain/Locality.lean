import DoomPatch.Proofs.Chain.Path

/-!
# What a chain depends on

A chain reads only its own frames and the number at which it stops.  Whatever else changes in a reel, and
however large the reel grows, the chain stays the same.

* `walk_add_fuel` — a walk with enough fuel for the capacity does not use more.
* `Beside` — a number is on a chain, or stops it; from such a number only such numbers are named.
* `Agree` — two reels have the same frames on a set of numbers that following does not leave.
* `Agree.chain_eq` — then chains inside the set are the same.
* `chain_eq_of_frame?_eq` — a reel that has the same frames beside a chain has the same chain.
-/

namespace DoomPatch
namespace Reel

/-- A number stops a walk: it is the null frame, it was seen before, or it has no frame. -/
def Stops (r : Reel) (seen : List Int) (id : Int) : Prop := id = 0 ∨ id ∈ seen ∨ r.frame? id = none

theorem walk_of_stops {r : Reel} {seen : List Int} {id : Int} (hstops : r.Stops seen id) (fuel : Nat) :
    r.walk seen fuel id = [] := by
  cases fuel with
  | zero => rfl
  | succ fuel =>
      simp only [walk]
      by_cases hseen : id = 0 ∨ id ∈ seen
      · rw [if_pos hseen]
      · rw [if_neg hseen]
        rw [not_or] at hseen
        rcases hstops with hnull | hmem | hframe
        · exact absurd hnull hseen.1
        · exact absurd hmem hseen.2
        · rw [hframe]

theorem walk_of_frame {r : Reel} {seen : List Int} {id : Int} {f : Frame} (hne : id ≠ 0) (hseen : id ∉ seen)
    (hframe : r.frame? id = some f) (fuel : Nat) :
    r.walk seen (fuel + 1) id = id :: r.walk (id :: seen) fuel f.next := by
  simp only [walk]
  rw [if_neg (by simp [hne, hseen]), hframe]

/-- A walk goes on or stops. -/
theorem stops_or_frame (r : Reel) (seen : List Int) (id : Int) :
    r.Stops seen id ∨ ∃ f, id ≠ 0 ∧ id ∉ seen ∧ r.frame? id = some f := by
  by_cases hne : id = 0
  · exact Or.inl (Or.inl hne)
  · by_cases hseen : id ∈ seen
    · exact Or.inl (Or.inr (Or.inl hseen))
    · cases hframe : r.frame? id with
      | none => exact Or.inl (Or.inr (Or.inr hframe))
      | some f => exact Or.inr ⟨f, hne, hseen, rfl⟩

/-- Once as many frames were seen as the capacity allows, everything that exists was seen, and a walk stops. -/
theorem Seen.stops {r : Reel} {seen : List Int} (hseen : r.Seen seen) (hfull : r.capacity ≤ seen.length) (id : Int) :
    r.Stops seen id := by
  rcases r.stops_or_frame seen id with hstops | ⟨f, -, hfresh, hframe⟩
  · exact hstops
  · have hlength := (hseen.cons hfresh hframe).length_le_capacity
    rw [List.length_cons] at hlength
    omega

/-- A walk with enough fuel for the capacity of the reel does not use more. -/
theorem walk_add_fuel {r : Reel} {seen : List Int} (hseen : r.Seen seen) {fuel : Nat}
    (hfuel : r.capacity ≤ seen.length + fuel) (extra : Nat) (id : Int) :
    r.walk seen (fuel + extra) id = r.walk seen fuel id := by
  induction fuel generalizing seen id with
  | zero =>
      have hstops := hseen.stops hfuel id
      rw [walk_of_stops hstops, walk_of_stops hstops]
  | succ fuel ih =>
      rcases r.stops_or_frame seen id with hstops | ⟨f, hne, hfresh, hframe⟩
      · rw [walk_of_stops hstops, walk_of_stops hstops]
      · rw [show fuel + 1 + extra = fuel + extra + 1 by omega, walk_of_frame hne hfresh hframe,
          walk_of_frame hne hfresh hframe, ih (hseen.cons hfresh hframe)]
        rw [List.length_cons]
        omega

/-- A chain can be walked with any amount of fuel from the capacity on. -/
theorem walk_eq_chain (r : Reel) {fuel : Nat} (hfuel : r.capacity ≤ fuel) (start : Int) :
    r.walk [] fuel start = r.chain start := by
  obtain ⟨extra, rfl⟩ := Nat.exists_eq_add_of_le hfuel
  exact walk_add_fuel r.seen_nil (by simp) extra start

/-! ### Numbers beside a chain -/

/-- The frames of a walk exist and are not the null frame.  They have every property that the start has and
that each frame hands on to the one it names. -/
theorem of_mem_walk {r : Reel} (within : Int → Prop)
    (hclosed : ∀ id f, within id → id ≠ 0 → r.frame? id = some f → within f.next) {seen : List Int} {fuel : Nat}
    {start id : Int} (hstart : within start) (hmem : id ∈ r.walk seen fuel start) :
    within id ∧ id ≠ 0 ∧ (r.frame? id).isSome := by
  induction fuel generalizing seen start with
  | zero => simp [walk] at hmem
  | succ fuel ih =>
      rcases r.stops_or_frame seen start with hstops | ⟨f, hne, hfresh, hframe⟩
      · rw [walk_of_stops hstops] at hmem
        simp at hmem
      · rw [walk_of_frame hne hfresh hframe] at hmem
        rcases List.mem_cons.1 hmem with rfl | hmem
        · exact ⟨hstart, hne, by rw [hframe]; rfl⟩
        · exact ih (hclosed start f hstart hne hframe) hmem

/-- A walk with enough fuel contains its start or stops there. -/
theorem mem_walk_or_stops {r : Reel} {seen : List Int} (hseen : r.Seen seen) {fuel : Nat}
    (hfuel : r.capacity ≤ seen.length + fuel) (start : Int) :
    start ∈ r.walk seen fuel start ∨ r.Stops seen start := by
  rcases r.stops_or_frame seen start with hstops | ⟨f, hne, hfresh, hframe⟩
  · exact Or.inr hstops
  · left
    rw [← walk_add_fuel hseen hfuel 1, walk_of_frame hne hfresh hframe]
    exact List.mem_cons_self

/-- Every frame of a walk with enough fuel names a frame of the walk or a number that stops it. -/
theorem next_mem_walk_or_stops {r : Reel} {seen : List Int} (hseen : r.Seen seen) {fuel : Nat}
    (hfuel : r.capacity ≤ seen.length + fuel) {start id : Int} (hmem : id ∈ r.walk seen fuel start)
    {f : Frame} (hid : r.frame? id = some f) :
    f.next ∈ r.walk seen fuel start ∨ r.Stops seen f.next := by
  induction fuel generalizing seen start with
  | zero => simp [walk] at hmem
  | succ fuel ih =>
      rcases r.stops_or_frame seen start with hstops | ⟨g, hne, hfresh, hframe⟩
      · rw [walk_of_stops hstops] at hmem
        simp at hmem
      · have hmore := hseen.cons hfresh hframe
        have hfuel' : r.capacity ≤ (start :: seen).length + fuel := by
          rw [List.length_cons]
          omega
        rw [walk_of_frame hne hfresh hframe] at hmem ⊢
        -- The rest of the walk stops at its start as well, but the start is on the whole walk.
        have hstep : f.next ∈ r.walk (start :: seen) fuel g.next ∨ r.Stops (start :: seen) f.next := by
          rcases List.mem_cons.1 hmem with rfl | hmem
          · rw [hframe] at hid
            cases hid
            exact mem_walk_or_stops hmore hfuel' _
          · exact ih hmore hfuel' hmem
        rcases hstep with hmem' | hnull | hseen' | hnone
        · exact Or.inl (List.mem_cons_of_mem _ hmem')
        · exact Or.inr (Or.inl hnull)
        · rcases List.mem_cons.1 hseen' with heq | hseen'
          · exact Or.inl (heq ▸ List.mem_cons_self)
          · exact Or.inr (Or.inr (Or.inl hseen'))
        · exact Or.inr (Or.inr (Or.inr hnone))

theorem of_mem_chain {r : Reel} {start id : Int} (hmem : id ∈ r.chain start) :
    id ≠ 0 ∧ (r.frame? id).isSome :=
  (of_mem_walk (fun _ => True) (fun _ _ _ _ _ => trivial) trivial hmem).2

/-- A number is on a chain, or it is one that ends chains. -/
def Beside (r : Reel) (start id : Int) : Prop := id ∈ r.chain start ∨ id = 0 ∨ r.frame? id = none

theorem beside_of_stops_nil {r : Reel} {start id : Int} (h : id ∈ r.chain start ∨ r.Stops [] id) :
    r.Beside start id := by
  rcases h with hmem | hnull | hseen | hnone
  · exact Or.inl hmem
  · exact Or.inr (Or.inl hnull)
  · simp at hseen
  · exact Or.inr (Or.inr hnone)

theorem beside_start (r : Reel) (start : Int) : r.Beside start start :=
  beside_of_stops_nil (mem_walk_or_stops r.seen_nil (by simp) start)

theorem beside_next {r : Reel} {start id : Int} (hmem : id ∈ r.chain start) {f : Frame}
    (hframe : r.frame? id = some f) : r.Beside start f.next :=
  beside_of_stops_nil (next_mem_walk_or_stops r.seen_nil (by simp) hmem hframe)

/-! ### Reels that agree -/

/-- Two reels have the same frames on a set of numbers, and what these frames name is in the set again. -/
structure Agree (r r' : Reel) (within : Int → Prop) : Prop where
  /-- The frames are the same. -/
  frame?_eq : ∀ id, within id → id ≠ 0 → r'.frame? id = r.frame? id
  /-- Following does not leave the set. -/
  closed : ∀ id f, within id → id ≠ 0 → r.frame? id = some f → within f.next

namespace Agree

variable {r r' : Reel} {within : Int → Prop}

theorem walk_eq (hagree : Agree r r' within) (seen : List Int) (fuel : Nat) {id : Int} (hid : within id) :
    r'.walk seen fuel id = r.walk seen fuel id := by
  induction fuel generalizing seen id with
  | zero => rfl
  | succ fuel ih =>
      rcases r.stops_or_frame seen id with hstops | ⟨f, hne, hfresh, hframe⟩
      · have hstops' : r'.Stops seen id := by
          by_cases hne : id = 0
          · exact Or.inl hne
          · rcases hstops with hnull | hseen | hnone
            · exact Or.inl hnull
            · exact Or.inr (Or.inl hseen)
            · exact Or.inr (Or.inr ((hagree.frame?_eq id hid hne).trans hnone))
        rw [walk_of_stops hstops, walk_of_stops hstops']
      · have hframe' : r'.frame? id = some f := (hagree.frame?_eq id hid hne).trans hframe
        rw [walk_of_frame hne hfresh hframe, walk_of_frame hne hfresh hframe',
          ih (id :: seen) (hagree.closed id f hid hne hframe)]

/-- Chains inside the set are the same, whatever the capacities. -/
theorem chain_eq (hagree : Agree r r' within) {start : Int} (hstart : within start) :
    r'.chain start = r.chain start := by
  rw [← r'.walk_eq_chain (Nat.le_add_left r'.capacity r.capacity),
    ← r.walk_eq_chain (Nat.le_add_right r.capacity r'.capacity), hagree.walk_eq [] _ hstart]

/-- A chain that starts inside the set stays there. -/
theorem within_of_mem_chain (hagree : Agree r r' within) {start id : Int} (hstart : within start)
    (hmem : id ∈ r.chain start) : within id := (of_mem_walk within hagree.closed hstart hmem).1

/-- A path inside the set is a path of either reel. -/
theorem within_of_path (hagree : Agree r r' within) {start stop : Int} (hstart : within start)
    {ids : List Int} (hpath : r.Path start ids stop) : within stop ∧ ∀ id ∈ ids, within id := by
  induction hpath with
  | nil => exact ⟨hstart, by simp⟩
  | @snoc ids id f hpath hne hframe ih =>
      refine ⟨hagree.closed id f ih.1 hne hframe, ?_⟩
      intro x hmem
      rcases List.mem_append.1 hmem with hmem | hmem
      · exact ih.2 x hmem
      · rw [List.mem_singleton] at hmem
        exact hmem ▸ ih.1

end Agree

/-- A reel that has the same frames beside a chain has the same chain. -/
theorem chain_eq_of_frame?_eq {r r' : Reel} {start : Int}
    (hframes : ∀ id, r.Beside start id → id ≠ 0 → r'.frame? id = r.frame? id) :
    r'.chain start = r.chain start := by
  have hagree : Agree r r' (r.Beside start) := by
    refine ⟨hframes, ?_⟩
    intro id f hid hne hframe
    rcases hid with hmem | hnull | hnone
    · exact beside_next hmem hframe
    · exact absurd hnull hne
    · rw [hnone] at hframe
      cases hframe
  exact hagree.chain_eq (r.beside_start start)

/-- Reels with one chain in common, and the same frames on it, agree along the chain. -/
theorem agree_of_chain_eq {r r' : Reel} {start : Int} (hchain : r'.chain start = r.chain start)
    (hframes : ∀ id ∈ r.chain start, r'.frame? id = r.frame? id) :
    Agree r r' (fun id => r.Beside start id ∧ r'.Beside start id) := by
  constructor
  · rintro id ⟨hmem | hnull | hnone, hid'⟩ hne
    · exact hframes id hmem
    · exact absurd hnull hne
    · rcases hid' with hmem | hnull | hnone'
      · exact hframes id (hchain ▸ hmem)
      · exact absurd hnull hne
      · exact hnone'.trans hnone.symm
  · rintro id f ⟨hmem | hnull | hnone, hid'⟩ hne hframe
    · refine ⟨beside_next hmem hframe, ?_⟩
      exact beside_next (hchain ▸ hmem) ((hframes id hmem).trans hframe)
    · exact absurd hnull hne
    · rw [hnone] at hframe
      cases hframe

end Reel
end DoomPatch
