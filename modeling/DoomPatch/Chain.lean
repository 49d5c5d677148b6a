import DoomPatch.Frame
import DoomPatch.CodePointer

/-!
# Chains of frames

Every frame names the one that follows, so a frame starts a chain.  The chain ends at the null frame, at a
frame that does not exist, or where it would return to one of its own frames.

* `Reel` — a source of frames of which only finitely many exist.
* `Reel.chain` — the frames reached from a start, in order, each once.
* `Reel.chainFlags` — what the code pointers of a chain do, taken together.
-/

namespace DoomPatch

/-- A source of frames.  Only finitely many numbers have one. -/
structure Reel where
  /-- The frame of a number. -/
  frame? : Int → Option Frame
  /-- At least as many as there are frames. -/
  capacity : Nat
  /-- All frames are listed somewhere, in a list no longer than the capacity. -/
  finite : ∃ ids : List Int, ids.length ≤ capacity ∧ ∀ id, (frame? id).isSome → id ∈ ids

namespace Reel

/-- Follows the frames from a start, leaving out the null frame and those seen before. -/
def walk (r : Reel) (seen : List Int) : Nat → Int → List Int
  | 0, _ => []
  | fuel + 1, id =>
    if id = 0 ∨ id ∈ seen then []
    else
      match r.frame? id with
      | none => []
      | some f => id :: r.walk (id :: seen) fuel f.next

/-- The frames reached from a start, in order. -/
def chain (r : Reel) (start : Int) : List Int := r.walk [] r.capacity start

/-- The code pointer of a frame. -/
def pointer? (r : Reel) (id : Int) : Option CodePointer :=
  (r.frame? id).bind fun f => CodePointer.ofAction? f.action

/-- What the code pointer of a frame does; nothing if it has none. -/
def flags (r : Reel) (id : Int) : UInt32 := ((r.pointer? id).map (·.flags)).getD 0

/-- The attacks that the code pointer of a frame fires. -/
def attacks (r : Reel) (id : Int) : Attacks := ((r.pointer? id).map (·.attacks)).getD {}

/-- What the code pointers of a chain do, taken together. -/
def chainFlags (r : Reel) (start : Int) : UInt32 :=
  (r.chain start).foldl (fun acc id => acc ||| r.flags id) 0

/-- The reel of a list of numbered frames; of two frames with one number the later counts. -/
def ofList (frames : List (Int × Frame)) : Reel where
  frame? id := (frames.reverse.find? fun e => e.1 == id).map (·.2)
  capacity := frames.length
  finite := by
    refine ⟨frames.map Prod.fst, by simp, fun id h => ?_⟩
    simp only [Option.isSome_map, List.find?_isSome, List.mem_reverse, beq_iff_eq] at h
    obtain ⟨e, he, rfl⟩ := h
    exact List.mem_map_of_mem he

end Reel
end DoomPatch
