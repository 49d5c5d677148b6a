import Mathlib.Data.List.Nodup
import DoomPatch.Proofs.Chain.Reach
import DoomPatch.Proofs.Flag.Expression

/-!
# How a chain is collected

A chain is computed with a bound on its length, the capacity of the reel.  The loop of this module has none: it goes
on until it comes to the null frame, to a frame it has passed, or to a number without a frame.  It always ends, since
each pass leaves fewer frames to be seen, and what it has collected then is the chain.

* `Reel.Collects` — the loop, by what it ends with.
* `collects_chain`, `Collects.unique` — it ends with the chain and with nothing else.
* `Path.collects_iff` — the loop follows every stretch of different frames.
* `Trail`, `Trail.isPrefix` — so these stretches are the beginnings of the chain.
* `BreaksAt`, `chain_eq_of_same` — a chain stays the same as long as its frames do, and the number at which it breaks
  off has no frame.
* `hasAll_chainFlags` — the flags of a chain.
-/

namespace DoomPatch
namespace Reel

variable {r r' : Reel} {start stop id : Int} {passed ids ids' : List Int}

/-! ### The loop -/

/-- The loop that collects a chain ends.  It has collected `passed` and comes to `id`, and what it has collected in
the end is the last index. -/
inductive Collects (r : Reel) : List Int → Int → List Int → Prop
  | stop {passed : List Int} {id : Int} (hstops : r.Stops passed id) : Collects r passed id passed
  | pass {passed ids : List Int} {id : Int} {f : Frame} (hne : id ≠ 0) (hfresh : id ∉ passed)
      (hframe : r.frame? id = some f) (hrest : Collects r (passed ++ [id]) f.next ids) : Collects r passed id ids

theorem not_stops_of_frame {f : Frame} (hne : id ≠ 0) (hfresh : id ∉ passed) (hframe : r.frame? id = some f) :
    ¬ r.Stops passed id := by
  rintro (hnull | hmem | hnone)
  · exact hne hnull
  · exact hfresh hmem
  · rw [hframe] at hnone
    cases hnone

/-- The loop ends in one way only. -/
theorem Collects.unique (hids : r.Collects passed id ids) (hids' : r.Collects passed id ids') : ids' = ids := by
  induction hids with
  | stop hstops =>
      cases hids' with
      | stop _ => rfl
      | pass hne hfresh hframe _ => exact absurd hstops (not_stops_of_frame hne hfresh hframe)
  | pass hne hfresh hframe _ ih =>
      cases hids' with
      | stop hstops => exact absurd hstops (not_stops_of_frame hne hfresh hframe)
      | pass _ _ hframe' hrest' =>
          rw [hframe] at hframe'
          cases hframe'
          exact ih hrest'

/-- What was collected stays in front. -/
theorem Collects.isPrefix (hids : r.Collects passed id ids) : passed <+: ids := by
  induction hids with
  | stop _ => exact List.prefix_rfl
  | pass _ _ _ _ ih => exact (List.prefix_append _ _).trans ih

/-- A walk with enough fuel collects what the loop does.  It remembers the frames it has seen latest first. -/
theorem collects_walk {seen : List Int} (hseen : r.Seen seen) {fuel : Nat} (hfuel : r.capacity ≤ seen.length + fuel)
    (id : Int) : r.Collects seen.reverse id (seen.reverse ++ r.walk seen fuel id) := by
  have hstop : ∀ {seen : List Int} {fuel : Nat} {id : Int}, r.Stops seen id →
      r.Collects seen.reverse id (seen.reverse ++ r.walk seen fuel id) := by
    intro seen fuel id hstops
    rw [walk_of_stops hstops, List.append_nil]
    exact .stop (by simpa [Stops] using hstops)
  induction fuel generalizing seen id with
  | zero =>
      -- Without fuel everything that exists was seen, so the loop stops here too.
      exact hstop (hseen.stops hfuel id)
  | succ fuel ih =>
      rcases r.stops_or_frame seen id with hstops | ⟨f, hne, hfresh, hframe⟩
      · exact hstop hstops
      · have hrest := ih (hseen.cons hfresh hframe) (by rw [List.length_cons]; omega) f.next
        rw [List.reverse_cons, List.append_assoc, List.singleton_append] at hrest
        rw [walk_of_frame hne hfresh hframe]
        exact .pass hne (by simpa using hfresh) hframe hrest

/-- The loop ends with the chain. -/
theorem collects_chain (r : Reel) (start : Int) : r.Collects [] start (r.chain start) :=
  collects_walk r.seen_nil (by simp) start

theorem collects_iff : r.Collects [] start ids ↔ ids = r.chain start := by
  constructor
  · exact (r.collects_chain start).unique
  · rintro rfl
    exact r.collects_chain start

/-! ### The longest stretch -/

/-- From the end of a stretch of different frames the loop goes on as it does from the start. -/
theorem Path.collects_iff (hpath : r.Path start ids stop) (hnodup : ids.Nodup) :
    r.Collects [] start ids' ↔ r.Collects ids stop ids' := by
  induction hpath with
  | nil => exact Iff.rfl
  | @snoc ids id f hpath hne hframe ih =>
      rw [← List.concat_eq_append, List.nodup_concat] at hnodup
      obtain ⟨hfresh, hnodup⟩ := hnodup
      rw [ih hnodup]
      -- At the last frame of the stretch the loop can do nothing but pass it.
      constructor
      · intro hids
        cases hids with
        | stop hstops => exact absurd hstops (not_stops_of_frame hne hfresh hframe)
        | pass _ _ hframe' hrest =>
            rw [hframe] at hframe'
            cases hframe'
            exact hrest
      · exact .pass hne hfresh hframe

/-- Different frames in a row: the first is the start, each exists, is not the null frame, and names the following
one. -/
def Trail (r : Reel) (start : Int) (ids : List Int) : Prop := ids.Nodup ∧ ∃ stop, r.Path start ids stop

/-- Behind a trail the loop collects a trail, and stops where this one leads. -/
theorem Collects.trail (hids : r.Collects passed id ids) (hnodup : passed.Nodup) (hpath : r.Path start passed id) :
    ids.Nodup ∧ ∃ stop, r.Path start ids stop ∧ r.Stops ids stop := by
  induction hids with
  | stop hstops => exact ⟨hnodup, _, hpath, hstops⟩
  | @pass passed ids id f hne hfresh hframe _ ih =>
      refine ih ?_ (hpath.snoc hne hframe)
      rw [← List.concat_eq_append, List.nodup_concat]
      exact ⟨hfresh, hnodup⟩

/-- The chain is a trail that cannot be continued. -/
theorem trail_chain (r : Reel) (start : Int) :
    (r.chain start).Nodup ∧ ∃ stop, r.Path start (r.chain start) stop ∧ r.Stops (r.chain start) stop :=
  (r.collects_chain start).trail List.nodup_nil .nil

/-- Every trail is the beginning of the chain. -/
theorem Trail.isPrefix (htrail : r.Trail start ids) : ids <+: r.chain start := by
  obtain ⟨hnodup, stop, hpath⟩ := htrail
  exact ((hpath.collects_iff hnodup).1 (r.collects_chain start)).isPrefix

/-! ### What a chain depends on -/

/-- A chain breaks off at a number, because the number has no frame. -/
def BreaksAt (r : Reel) (start id : Int) : Prop := r.Path start (r.chain start) id ∧ r.frame? id = none

theorem BreaksAt.unique {id' : Int} (hbreak : r.BreaksAt start id) (hbreak' : r.BreaksAt start id') : id' = id :=
  hbreak'.1.stop_eq.trans hbreak.1.stop_eq.symm

/-- A reel has the same chain if it has the same frames on the chain, and still none where the chain breaks off. -/
theorem chain_eq_of_same (hframes : ∀ id ∈ r.chain start, r'.frame? id = r.frame? id)
    (hbreak : ∀ id, r.BreaksAt start id → r'.frame? id = none) : r'.chain start = r.chain start := by
  obtain ⟨hnodup, stop, hpath, hstops⟩ := r.trail_chain start
  have hstops' : r'.Stops (r.chain start) stop := by
    rcases hstops with hnull | hmem | hnone
    · exact .inl hnull
    · exact .inr (.inl hmem)
    · exact .inr (.inr (hbreak stop ⟨hpath, hnone⟩))
  have hids : r'.Collects [] start (r.chain start) := ((hpath.congr hframes).collects_iff hnodup).2 (.stop hstops')
  exact (Reel.collects_iff.1 hids).symm

/-- A frame that is added where a chain breaks off comes to be on the chain. -/
theorem BreaksAt.mem_chain (hbreak : r.BreaksAt start id) (hne : id ≠ 0) (hframe : (r'.frame? id).isSome)
    (hframes : ∀ i, i ≠ id → r'.frame? i = r.frame? i) : id ∈ r'.chain start := by
  have hpath : r'.Path start (r.chain start) id := by
    refine hbreak.1.congr fun i hi => hframes i ?_
    -- The frames of the chain exist.
    rintro rfl
    have hexists := (of_mem_chain hi).2
    rw [hbreak.2] at hexists
    cases hexists
  rcases hpath.beside with hmem | hnull | hnone
  · exact hmem
  · exact absurd hnull hne
  · rw [hnone] at hframe
    cases hframe

/-! ### Flags -/

/-- A flag of a chain is a flag of one of its frames. -/
theorem hasAll_chainFlags (r : Reel) (start : Int) {bit : UInt32} (hbit : Word.IsFlag bit) :
    Word.hasAll (r.chainFlags start) bit = true ↔ ∃ id ∈ r.chain start, Word.hasAll (r.flags id) bit = true := by
  have hfold : ∀ (ids : List Int) (acc : UInt32),
      Word.hasAll (ids.foldl (fun acc id => acc ||| r.flags id) acc) bit = true ↔
        Word.hasAll acc bit = true ∨ ∃ id ∈ ids, Word.hasAll (r.flags id) bit = true := by
    intro ids
    induction ids with
    | nil => simp
    | cons id ids ih => simp [ih, Word.hasAll_or hbit, or_assoc]
  rw [chainFlags, hfold, Word.hasAll_zero hbit]
  simp

end Reel
end DoomPatch
