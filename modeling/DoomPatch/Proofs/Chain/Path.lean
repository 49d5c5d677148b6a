import DoomPatch.Chain

/-!
# Paths in the frame graph

Every frame names the one that follows, so a start determines one sequence of shown frames.  It may go on
for ever; it stops at the null frame and at frames that do not exist.

* `Reel.shown?`, `Reel.next?` — whether a number can be shown, and what is shown behind a frame.
* `Reel.visited?` — the frame shown after a number of steps.
* `Reel.Seen` — different frames that exist; there are no more of them than the capacity.
* `Reel.Path` — a finite stretch of frames from a start, and the number that the last of them names.
* `Path.visited?_eq`, `Path.visited?_length` — a stretch lists what is visited, and its end is visited next.
-/

namespace DoomPatch
namespace Reel

/-- The number of a frame that can be shown: it is not the null frame, and it exists. -/
def shown? (r : Reel) (id : Int) : Option Int :=
  if id = 0 ∨ (r.frame? id).isNone then none else some id

/-- The frame shown behind a frame. -/
def next? (r : Reel) (id : Int) : Option Int := (r.frame? id).bind fun f => r.shown? f.next

/-- The frame shown after a number of steps from a start; none once the animation has stopped. -/
def visited? (r : Reel) (start : Int) : Nat → Option Int
  | 0 => r.shown? start
  | n + 1 => (r.visited? start n).bind r.next?

@[simp] theorem visited?_zero (r : Reel) (start : Int) : r.visited? start 0 = r.shown? start := rfl

@[simp] theorem visited?_succ (r : Reel) (start : Int) (n : Nat) :
    r.visited? start (n + 1) = (r.visited? start n).bind r.next? := rfl

theorem shown?_eq_some_iff (r : Reel) {id shown : Int} :
    r.shown? id = some shown ↔ shown = id ∧ id ≠ 0 ∧ (r.frame? id).isSome := by
  unfold shown?
  by_cases h : id = 0 ∨ (r.frame? id).isNone
  · rw [if_pos h]
    constructor
    · intro hsome
      cases hsome
    · rintro ⟨-, hne, hframe⟩
      rcases h with h | h
      · exact absurd h hne
      · rw [Option.isNone_iff_eq_none.1 h] at hframe
        cases hframe
  · rw [if_neg h]
    rw [not_or] at h
    constructor
    · intro hsome
      refine ⟨(Option.some.inj hsome).symm, h.1, ?_⟩
      cases hframe : r.frame? id with
      | none => exact absurd (Option.isNone_iff_eq_none.2 hframe) h.2
      | some f => rfl
    · rintro ⟨rfl, -, -⟩
      rfl

theorem shown?_eq_none_iff (r : Reel) {id : Int} :
    r.shown? id = none ↔ id = 0 ∨ r.frame? id = none := by
  unfold shown?
  by_cases h : id = 0 ∨ (r.frame? id).isNone
  · rw [if_pos h]
    simpa using h
  · rw [if_neg h]
    simpa using h

/-- A frame that exists can be shown, unless it is the null frame. -/
theorem shown?_of_frame {r : Reel} {id : Int} {f : Frame} (hne : id ≠ 0) (hframe : r.frame? id = some f) :
    r.shown? id = some id :=
  (shown?_eq_some_iff r).2 ⟨rfl, hne, by rw [hframe]; rfl⟩

/-- Frames that were seen: all different, and all exist. -/
def Seen (r : Reel) (seen : List Int) : Prop := seen.Nodup ∧ ∀ id ∈ seen, (r.frame? id).isSome

theorem seen_nil (r : Reel) : r.Seen [] := ⟨List.nodup_nil, by simp⟩

theorem Seen.cons {r : Reel} {seen : List Int} (hseen : r.Seen seen) {id : Int} {f : Frame}
    (hfresh : id ∉ seen) (hframe : r.frame? id = some f) : r.Seen (id :: seen) := by
  refine ⟨List.nodup_cons.2 ⟨hfresh, hseen.1⟩, ?_⟩
  intro x hmem
  rcases List.mem_cons.1 hmem with rfl | hmem
  · rw [hframe]
    rfl
  · exact hseen.2 x hmem

/-- The order in which frames are seen does not matter. -/
theorem Seen.snoc {r : Reel} {seen : List Int} (hseen : r.Seen seen) {id : Int} {f : Frame}
    (hfresh : id ∉ seen) (hframe : r.frame? id = some f) : r.Seen (seen ++ [id]) := by
  have hperm : (seen ++ [id]).Perm (id :: seen) := List.perm_append_comm
  have hcons := hseen.cons hfresh hframe
  exact ⟨hperm.nodup_iff.2 hcons.1, fun x hmem => hcons.2 x (hperm.mem_iff.1 hmem)⟩

/-- Frames that were seen are no more than the capacity. -/
theorem Seen.length_le_capacity {r : Reel} {seen : List Int} (hseen : r.Seen seen) : seen.length ≤ r.capacity := by
  obtain ⟨all, hlength, hall⟩ := r.finite
  have hsubset : seen ⊆ all := fun id hmem => hall id (hseen.2 id hmem)
  exact Nat.le_trans (hseen.1.length_le_of_subset hsubset) hlength

/-- A stretch of frames from a start: each exists, is not the null frame, and names the following one.  The
last index is the number that is named behind the stretch. -/
inductive Path (r : Reel) (start : Int) : List Int → Int → Prop
  | nil : Path r start [] start
  | snoc {ids : List Int} {id : Int} {f : Frame} (hpath : Path r start ids id) (hne : id ≠ 0)
      (hframe : r.frame? id = some f) : Path r start (ids ++ [id]) f.next

namespace Path

variable {r : Reel} {start stop : Int} {ids : List Int}

/-- A stretch leads to what its last frame names; an empty one leads to its start. -/
theorem stop_eq (hpath : Path r start ids stop) : stop = (ids.getLast?.bind r.frame?).elim start Frame.next := by
  cases hpath with
  | nil => rfl
  | snoc hpath hne hframe => simp [hframe]

/-- All frames of a stretch can be shown. -/
theorem shown?_of_mem (hpath : Path r start ids stop) {id : Int} (hmem : id ∈ ids) :
    r.shown? id = some id := by
  induction hpath with
  | nil => simp at hmem
  | snoc hpath hne hframe ih =>
      rcases List.mem_append.1 hmem with hmem | hmem
      · exact ih hmem
      · rw [List.mem_singleton] at hmem
        subst hmem
        exact shown?_of_frame hne hframe

/-- The number behind a stretch is what the next step visits. -/
theorem visited?_length (hpath : Path r start ids stop) : r.visited? start ids.length = r.shown? stop := by
  induction hpath with
  | nil => rfl
  | @snoc ids id f hpath hne hframe ih =>
      rw [List.length_append, List.length_singleton, visited?_succ, ih, shown?_of_frame hne hframe]
      simp [next?, hframe]

/-- The frames of a stretch are the frames visited, in order. -/
theorem visited?_eq (hpath : Path r start ids stop) {k : Nat} (hk : k < ids.length) :
    r.visited? start k = ids[k]? := by
  induction hpath with
  | nil => simp at hk
  | @snoc ids id f hpath hne hframe ih =>
      rw [List.length_append, List.length_singleton] at hk
      by_cases hlast : k < ids.length
      · rw [List.getElem?_append_left hlast]
        exact ih hlast
      · have hk : k = ids.length := by omega
        subst hk
        rw [hpath.visited?_length, List.getElem?_concat_length]
        exact shown?_of_frame hne hframe

end Path
end Reel
end DoomPatch
