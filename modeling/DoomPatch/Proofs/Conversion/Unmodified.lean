import DoomPatch.Conversion
import DoomPatch.Proofs.Baseline.Tables
import DoomPatch.Proofs.Definition.Locality
import DoomPatch.Proofs.Session.Untouched

/-!
# Views of unmodified entities

A patched game and the unpatched one agree on all frames of undisturbed chains, so what is defined by such
frames alone is defined alike.

* `Within` — the frames of undisturbed chains, and the numbers at which these end.
* `agree_within` — a session has the frames of the unpatched game there.
* `alike_new` — so the views of both agree there: sprites and things that the frames refer to go by the same names.
-/

namespace DoomPatch

/-- Nothing is referred to by a number that is not positive. -/
theorem View.referred?_of_nonpos (v : View) {number : Int} (hnumber : number ≤ 0) : v.referred? number = none := by
  unfold View.referred?
  rw [if_pos hnumber]

namespace Session

/-- A number is on an undisturbed chain, or ends it, in the session as in the unpatched game. -/
def Within (s : Session) (id : Int) : Prop :=
  ∃ start, s.Undisturbed start ∧ Baseline.reel.Beside start id ∧ s.reel.Beside start id

theorem Undisturbed.within {s : Session} {start : Int} (hstart : s.Undisturbed start) : s.Within start :=
  ⟨start, hstart, Baseline.reel.beside_start start, s.reel.beside_start start⟩

/-- An undisturbed chain has the frames of the unpatched game. -/
theorem Undisturbed.agree {s : Session} {start : Int} (hstart : s.Undisturbed start) :
    Reel.Agree Baseline.reel s.reel fun id => Baseline.reel.Beside start id ∧ s.reel.Beside start id := by
  refine Reel.agree_of_chain_eq hstart.chain_eq fun id hmem => ?_
  rw [← hstart.chain_eq] at hmem
  exact frame?_of_get?_eq_none (hstart.unmodified id hmem)

/-- The frames that a session shares with the unpatched game. -/
theorem agree_within (s : Session) : Reel.Agree Baseline.reel s.reel s.Within := by
  constructor
  · rintro id ⟨start, hstart, hbeside⟩ hne
    exact hstart.agree.frame?_eq id hbeside hne
  · rintro id f ⟨start, hstart, hbeside⟩ hne hframe
    exact ⟨start, hstart, hstart.agree.closed id f hbeside hne hframe⟩

/-- A frame of the unpatched game beside an undisturbed chain is on the chain. -/
theorem mem_chain_of_within {s : Session} {id : Int} (hid : s.Within id) (hne : id ≠ 0) {f : Frame}
    (hframe : Baseline.frame? id = some f) :
    ∃ start, s.Undisturbed start ∧ id ∈ s.reel.chain start ∧ s.frame? id = some f := by
  have hsame : s.frame? id = some f := (s.agree_within.frame?_eq id hid hne).trans hframe
  obtain ⟨start, hstart, -, hmem | hnull | hnone⟩ := hid
  · exact ⟨start, hstart, hmem, hsame⟩
  · exact absurd hnull hne
  · rw [show s.frame? id = none from hnone] at hsame
    cases hsame

/-- A session and the unpatched game agree on all undisturbed chains. -/
theorem alike_new (s : Session) (version : Int) : View.Alike { session := new version } { session := s } s.Within where
  agree := ⟨s.agree_within.frame?_eq, s.agree_within.closed⟩
  spriteName_eq := by
    intro id f hid hshown hframe
    have hne : id ≠ 0 := ((Reel.shown?_eq_some_iff _).1 hshown).2.1
    obtain ⟨start, hstart, hmem, hf⟩ := mem_chain_of_within hid hne hframe
    have hrenamed := hstart.unrenamed id hmem f hf
    have hnone : s.sprites.get? f.sprite = none := by simpa [isRenamed, SortedMap.contains] using hrenamed
    change s.spriteName f.sprite = (new version).spriteName f.sprite
    unfold spriteName
    rw [hnone]
    rfl
  referred?_eq := by
    intro id f _ _ hframe
    obtain ⟨harg, hmisc⟩ := Baseline.args_nonpos_of_frame? hframe
    refine ⟨?_, ?_⟩
    · rw [View.referred?_of_nonpos _ harg, View.referred?_of_nonpos _ harg]
    · rw [View.referred?_of_nonpos _ hmisc, View.referred?_of_nonpos _ hmisc]

end Session
end DoomPatch
