import DoomPatch.Proofs.Baseline.References
import DoomPatch.Proofs.Chain.Collect
import DoomPatch.Proofs.Session.Commute

/-!
# The chains of a session

Chains are followed through the current records of the frames.  Whatever numbers edits have made the frames name, a
chain comes to an end, and it notices nothing of what happens to frames beside it.

* `frame?_apply`, `frame?_applyAll` — edits write the frames they are about.
* `chain_putFrame` — a new record beside a chain changes it exactly if the chain broke off there.
* `chain_exact` — what a chain is, what its flags are, and which edits leave it alone.
-/

namespace DoomPatch
namespace Session

variable {s s' : Session} {e : Edit} {id start : Int}

/-- A frame reads as before an edit, unless the edit is about it. -/
theorem frame?_apply (happly : s.apply e = .ok s') (hother : e.subject ≠ .frame id) : s'.frame? id = s.frame? id := by
  rcases apply_cases happly with ⟨-, ws, rfl⟩ | ⟨-, ws, c, hsubject, -, rfl⟩
  · rfl
  · refine frame?_carry (s := { s with warnings := ws }) (a := c) ?_
    rw [← hsubject] at hother
    cases c with
    | frame i field alter =>
        have hne : id ≠ i := fun heq => hother (congrArg Subject.frame heq.symm)
        simpa using hne
    | _ => exact List.not_mem_nil

theorem frame?_applyAll (s : Session) {edits : List Edit} (hother : ∀ e ∈ edits, e.subject ≠ .frame id) :
    (s.applyAll edits).1.frame? id = s.frame? id := by
  induction edits generalizing s with
  | nil => rfl
  | cons e edits ih =>
      unfold applyAll
      cases happly : s.apply e with
      | error err => rfl
      | ok s' =>
          rw [← frame?_apply happly (hother e List.mem_cons_self)]
          exact ih s' fun e' he' => hother e' (List.mem_cons_of_mem e he')

/-- The null frame exists, so no chain breaks off there. -/
theorem ne_zero_of_frame?_eq_none (hnone : s.frame? id = none) : id ≠ 0 := by
  rintro rfl
  have hexists : (Baseline.frame? 0).isSome := Baseline.isSome_frame?_of_le (by decide)
  unfold frame? at hnone
  rw [Option.or_eq_none_iff] at hnone
  rw [hnone.2] at hexists
  cases hexists

/-- A new record of a frame beside a chain changes the chain exactly if it was broken off for lack of the frame. -/
theorem chain_putFrame (hoff : id ∉ s.reel.chain start) (f : Frame) :
    (s.putFrame id f).reel.chain start = s.reel.chain start ↔ ¬ s.reel.BreaksAt start id := by
  have hother : ∀ i, i ≠ id → (s.putFrame id f).reel.frame? i = s.reel.frame? i :=
    fun i hne => (frame?_putFrame s id i f).trans (if_neg hne)
  constructor
  · intro hsame hbreak
    have hframe : ((s.putFrame id f).reel.frame? id).isSome := by
      change ((s.putFrame id f).frame? id).isSome
      rw [frame?_putFrame, if_pos rfl]
      rfl
    have hmem := hbreak.mem_chain (ne_zero_of_frame?_eq_none hbreak.2) hframe hother
    rw [hsame] at hmem
    exact hoff hmem
  · intro hbreak
    refine Reel.chain_eq_of_same (fun i hi => hother i ?_) fun i hi => (hother i ?_).trans hi.2
    · exact fun heq => hoff (heq ▸ hi)
    · exact fun heq => hbreak (heq ▸ hi)

/-- Following frames from any number comes to an end, with the chain.  The chain is a trail, and all trails are
beginnings of it; it lists the frames that are visited, each once, and its flags are theirs.  A new record of a frame
beside the chain leaves it as it is, unless the chain broke off for lack of this frame; so do edits. -/
theorem chain_exact (s : Session) (start : Int) :
    (∀ ids, s.reel.Collects [] start ids ↔ ids = s.reel.chain start) ∧
    (s.reel.Trail start (s.reel.chain start) ∧ ∀ ids, s.reel.Trail start ids → ids <+: s.reel.chain start) ∧
    ((s.reel.chain start).Nodup ∧ ∀ id, id ∈ s.reel.chain start ↔ ∃ n, s.reel.visited? start n = some id) ∧
    (∀ bit, Word.IsFlag bit → (Word.hasAll (s.reel.chainFlags start) bit = true ↔
      ∃ n id, s.reel.visited? start n = some id ∧ Word.hasAll (s.reel.flags id) bit = true)) ∧
    (∀ id, id ∉ s.reel.chain start → ∀ f,
      ((s.putFrame id f).reel.chain start = s.reel.chain start ↔ ¬ s.reel.BreaksAt start id)) ∧
    ∀ edits : List Edit,
      (∀ e ∈ edits, ∀ id, e.subject = .frame id → id ∉ s.reel.chain start ∧ ¬ s.reel.BreaksAt start id) →
        (s.applyAll edits).1.reel.chain start = s.reel.chain start := by
  obtain ⟨hnodup, stop, hpath, -⟩ := s.reel.trail_chain start
  refine ⟨fun ids => Reel.collects_iff, ⟨⟨hnodup, stop, hpath⟩, fun ids => Reel.Trail.isPrefix⟩,
    ⟨hnodup, fun id => Reel.mem_chain_iff_visited?⟩, ?_, fun id => chain_putFrame, ?_⟩
  · intro bit hbit
    simp only [Reel.hasAll_chainFlags _ _ hbit, Reel.mem_chain_iff_visited?]
    constructor
    · rintro ⟨id, ⟨n, hvisited⟩, hflag⟩
      exact ⟨n, id, hvisited, hflag⟩
    · rintro ⟨n, id, hvisited, hflag⟩
      exact ⟨id, ⟨n, hvisited⟩, hflag⟩
  · intro edits hbeside
    -- The edits write neither a frame of the chain nor the one for lack of which it breaks off.
    refine Reel.chain_eq_of_same (fun id hid => ?_) fun id hid => ?_
    · exact s.frame?_applyAll fun e he hsubject => (hbeside e he id hsubject).1 hid
    · have hkept : (s.applyAll edits).1.frame? id = s.frame? id :=
        s.frame?_applyAll fun e he hsubject => (hbeside e he id hsubject).2 hid
      exact hkept.trans hid.2

/-- A frame is made to go on with one that does not exist.  Its chain breaks off there, and grows only once that very
frame is made. -/
theorem chain_exact_broken :
    ∃ s : Session, s = patched 2021 [.frameField 3 "Next frame" 5000] ∧ s.Reachable ∧ s.reel.chain 3 = [3] ∧
      s.reel.BreaksAt 3 5000 ∧ (∀ f, (s.putFrame 5000 f).reel.chain 3 ≠ [3]) ∧
      (∀ f, (s.putFrame 5001 f).reel.chain 3 = [3]) ∧
      (s.applyAll [.frameField 5001 "Next frame" 3, .pointer 4 "Chase"]).1.reel.chain 3 = [3] := by
  -- Only the change is looked at: to find the users of the frame, all chains would be followed.
  have hpatched : patched 2021 [.frameField 3 "Next frame" 5000] =
      (new 2021).carry (.frame 3 "Next frame" (FrameField.table.store .next 5000)) := by
    have hresolve : (new 2021).resolve FrameField.table "frame" 3 "Next frame" 5000 = .ok .next := rfl
    rw [patched_frameField, fieldChange, hresolve]
    rfl
  have hreachable := reachable_patched 2021 [.frameField 3 "Next frame" 5000]
  generalize patched 2021 [.frameField 3 "Next frame" 5000] = s at hpatched hreachable
  have hframes : s.frames = Overlay.rewriteAll (frameBase 2021) (new 2021).frames
      [⟨3, FrameField.table.store .next 5000⟩] := by
    rw [hpatched, frames_carry]
    rfl
  have hframe : (s.reel.frame? 3).map (·.next) = some 5000 := by
    change ((s.frames.get? 3).or (Baseline.frame? 3)).map (·.next) = _
    rw [hframes]
    decide
  have hnone : s.reel.frame? 5000 = none := by
    change (s.frames.get? 5000).or (Baseline.frame? 5000) = _
    rw [hframes]
    set_option maxRecDepth 4000 in decide
  obtain ⟨f, hf, hnext⟩ := Option.map_eq_some_iff.1 hframe
  have hpath : s.reel.Path 3 [3] 5000 := hnext ▸ .snoc .nil (by decide) hf
  have hchain : s.reel.chain 3 = [3] := by
    have hstop : s.reel.Collects [3] 5000 [3] := .stop (.inr (.inr hnone))
    exact (Reel.collects_iff.1 ((hpath.collects_iff (by decide)).2 hstop)).symm
  have hbreak : s.reel.BreaksAt 3 5000 := ⟨hchain ▸ hpath, hnone⟩
  have hbeside : ∀ id, id ∉ [(3 : Int), 5000] → id ∉ s.reel.chain 3 ∧ ¬ s.reel.BreaksAt 3 id := by
    intro id hid
    rw [List.mem_cons, List.mem_singleton, not_or] at hid
    exact ⟨by simpa [hchain] using hid.1, fun hbreak' => hid.2 (hbreak.unique hbreak')⟩
  obtain ⟨-, -, -, -, hput, hedits⟩ := chain_exact s 3
  refine ⟨s, rfl, hreachable, hchain, hbreak, ?_, ?_, ?_⟩
  · intro f hsame
    exact (hput 5000 (by simp [hchain]) f).1 (hsame.trans hchain.symm) hbreak
  · intro f
    obtain ⟨hoff, hwhole⟩ := hbeside 5001 (by decide)
    exact ((hput 5001 hoff f).2 hwhole).trans hchain
  · refine (hedits _ fun e he id hsubject => hbeside id ?_).trans hchain
    rw [List.mem_cons, List.mem_singleton] at he
    rcases he with rfl | rfl <;> cases hsubject <;> decide

end Session
end DoomPatch
