import DoomPatch.Animation
import DoomPatch.Proofs.Chain.Path

/-!
# How frames are laid out in groups

A group takes a stretch of the frames that its role visits, and its jump stands for the number that is named
behind the stretch.  This module says what such a jump promises and proves that every group of an animation
keeps the promise, whatever the frame graph looks like.

* `Settles` — a jump stands for a number: nothing is shown there, an earlier group has taken it, or the group
  itself has.
* `Laid` — a group is a stretch of frames from its start with a jump that settles what follows.
* `take_ends_or_frame` — what taking does at one number.
* `take_settles` — taking frames from a start ends with such a jump; the fuel never runs out, because the
  frames taken are different and all exist.
* `laid_of_mem_spread`, `laid_of_mem_build` — every group of an animation is laid out so.
-/

namespace DoomPatch

namespace Animation

/-- What the jump of a group stands for: the number `stop` that is named behind the frames of the group,
given the groups before it. -/
inductive Settles (r : Reel) (before : Animation) (role : Role) (frames : List Int) (stop : Int) :
    Jump → Prop
  /-- Nothing is shown there. -/
  | gone (hshown : r.shown? stop = none) : Settles r before role frames stop .remove
  /-- An earlier group has taken the frame. -/
  | taken {other : Role} {k : Nat} (howner : owner? before stop = some (other, k)) :
      Settles r before role frames stop (.into other k)
  /-- It is the first frame of the group itself. -/
  | again (hfirst : frames[0]? = some stop) : Settles r before role frames stop .loop
  /-- It is a later frame of the group itself. -/
  | inside {k : Nat} (hlater : frames[k + 1]? = some stop) :
      Settles r before role frames stop (.into role (k + 1))

/-- A group holds a stretch of the frames from its start, and its jump settles what follows. -/
def Laid (r : Reel) (groups : Animation) (g : Group) : Prop :=
  ∃ before : Animation, before ⊆ groups ∧
    ∃ stop : Int, r.Path g.start g.frames stop ∧ Settles r before g.role g.frames stop g.jump

/-- More groups do no harm. -/
theorem Laid.mono {r : Reel} {groups groups' : Animation} {g : Group} (hlaid : Laid r groups g)
    (hsubset : groups ⊆ groups') : Laid r groups' g := by
  obtain ⟨before, hbefore, hrest⟩ := hlaid
  exact ⟨before, fun h hmem => hsubset (hbefore hmem), hrest⟩

/-- A frame found among those taken stands at the place that is named. -/
theorem getElem?_of_idxOf? {ids : List Int} {id : Int} {k : Nat} (hidx : ids.idxOf? id = some k) :
    ids[k]? = some id := by
  obtain ⟨hlt, heq, -⟩ := List.idxOf?_eq_some_iff.1 hidx
  rw [List.getElem?_eq_getElem hlt, heq]

/-- The owner of a frame is a group that has the frame at the place that is named. -/
theorem exists_mem_of_owner? {groups : Animation} {id : Int} {role : Role} {k : Nat}
    (howner : owner? groups id = some (role, k)) :
    ∃ g ∈ groups, g.role = role ∧ g.frames[k]? = some id := by
  obtain ⟨g, hmem, hfound⟩ := List.exists_of_findSome?_eq_some howner
  obtain ⟨i, hidx, hpair⟩ := Option.map_eq_some_iff.1 hfound
  obtain ⟨rfl, rfl⟩ := Prod.mk.inj hpair
  exact ⟨g, hmem, rfl, getElem?_of_idxOf? hidx⟩

/-- Taking at a number, with fuel left, ends there with a jump that settles the number, or takes its frame and
goes on behind it. -/
theorem take_ends_or_frame (r : Reel) (before : Animation) (role : Role) (own : List Int) (id : Int) :
    (∃ jump, Settles r before role own id jump ∧
      ∀ fuel, take r before role own (fuel + 1) id = (own, jump)) ∨
    ∃ f, id ≠ 0 ∧ owner? before id = none ∧ id ∉ own ∧ r.frame? id = some f ∧
      ∀ fuel, take r before role own (fuel + 1) id = take r before role (own ++ [id]) fuel f.next := by
  simp only [take]
  by_cases hnull : id = 0
  · simp only [if_pos hnull]
    exact Or.inl ⟨_, .gone ((r.shown?_eq_none_iff).2 (Or.inl hnull)), fun _ => rfl⟩
  · simp only [if_neg hnull]
    cases howner : owner? before id with
    | some place => exact Or.inl ⟨_, .taken howner, fun _ => rfl⟩
    | none =>
        cases hown : own.idxOf? id with
        | some k =>
            cases k with
            | zero => exact Or.inl ⟨_, .again (getElem?_of_idxOf? hown), fun _ => rfl⟩
            | succ k => exact Or.inl ⟨_, .inside (getElem?_of_idxOf? hown), fun _ => rfl⟩
        | none =>
            cases hframe : r.frame? id with
            | none => exact Or.inl ⟨_, .gone ((r.shown?_eq_none_iff).2 (Or.inr hframe)), fun _ => rfl⟩
            | some f => exact Or.inr ⟨f, hnull, rfl, List.idxOf?_eq_none_iff.1 hown, rfl, fun _ => rfl⟩

/-- Taking frames from a stretch on ends in a longer stretch with a jump that settles what follows. -/
theorem take_settles (r : Reel) (before : Animation) (role : Role) (start : Int) (fuel : Nat)
    (own : List Int) (id : Int) (hpath : r.Path start own id) (hseen : r.Seen own)
    (hfuel : r.capacity < own.length + fuel) :
    ∃ stop, r.Path start (take r before role own fuel id).1 stop ∧
      Settles r before role (take r before role own fuel id).1 stop (take r before role own fuel id).2 := by
  induction fuel generalizing own id with
  | zero =>
      -- Without fuel there would be more frames than the reel has.
      have hlength := hseen.length_le_capacity
      omega
  | succ fuel ih =>
      rcases take_ends_or_frame r before role own id with
        ⟨jump, hsettles, htake⟩ | ⟨f, hne, -, hfresh, hframe, htake⟩
      · rw [htake]
        exact ⟨id, hpath, hsettles⟩
      · rw [htake]
        apply ih (own ++ [id]) f.next (.snoc hpath hne hframe) (hseen.snoc hfresh hframe)
        rw [List.length_append, List.length_singleton]
        omega

/-- A filled group is laid out behind the groups before it. -/
theorem laid_fill (r : Reel) (before : Animation) (g : Group) : Laid r before (fill r before g) := by
  obtain ⟨stop, hpath, hsettles⟩ :=
    take_settles r before g.role g.start (r.capacity + 1) [] g.start .nil r.seen_nil (by simp)
  exact ⟨before, fun _ hmem => hmem, stop, hpath, hsettles⟩

/-- Spreading seeds behind finished groups keeps every group laid out. -/
theorem laid_of_mem_foldl (r : Reel) (seeds done : Animation) (hdone : ∀ g ∈ done, Laid r done g) :
    ∀ g ∈ seeds.foldl (fun done g => done ++ [fill r done g]) done,
      Laid r (seeds.foldl (fun done g => done ++ [fill r done g]) done) g := by
  induction seeds generalizing done with
  | nil => exact hdone
  | cons seed seeds ih =>
      apply ih
      have hsubset : done ⊆ done ++ [fill r done seed] := List.subset_append_left _ _
      intro g hmem
      rcases List.mem_append.1 hmem with hmem | hmem
      · exact (hdone g hmem).mono hsubset
      · rw [List.mem_singleton] at hmem
        subst hmem
        exact (laid_fill r done seed).mono hsubset

/-- Every group of a spread animation is laid out. -/
theorem laid_of_mem_spread (r : Reel) (seeds : Animation) :
    ∀ g ∈ spread r seeds, Laid r (spread r seeds) g :=
  laid_of_mem_foldl r seeds [] (by simp)

/-- Every group that is built is laid out. -/
theorem laid_of_mem_build (r : Reel) (starts : List (Role × Int)) :
    ∀ g ∈ build r starts, Laid r (build r starts) g :=
  laid_of_mem_spread r _

/-- Filling a group changes neither its role nor its start. -/
@[simp] theorem fill_role (r : Reel) (before : Animation) (g : Group) : (fill r before g).role = g.role := rfl

@[simp] theorem fill_start (r : Reel) (before : Animation) (g : Group) : (fill r before g).start = g.start := rfl

/-- What a group is seeded with. -/
def seedOf (g : Group) : Role × Int := (g.role, g.start)

theorem map_seedOf_foldl (r : Reel) (seeds done : Animation) :
    (seeds.foldl (fun done g => done ++ [fill r done g]) done).map seedOf =
      done.map seedOf ++ seeds.map seedOf := by
  induction seeds generalizing done with
  | nil => simp
  | cons seed seeds ih =>
      rw [List.foldl_cons, ih]
      simp [seedOf]

/-- Spreading keeps the roles and starts of the seeds, in order. -/
theorem map_seedOf_spread (r : Reel) (seeds : Animation) : (spread r seeds).map seedOf = seeds.map seedOf := by
  unfold spread
  simpa using map_seedOf_foldl r seeds []

/-- A role is seeded with a start exactly if the start can be shown. -/
theorem seed_eq (r : Reel) (role : Role) (start : Int) :
    seed r role start = (r.shown? start).map fun start => { role, start } := by
  unfold seed Reel.shown?
  split <;> rfl

/-- There is one group for each start that can be shown. -/
theorem map_seedOf_build (r : Reel) (starts : List (Role × Int)) :
    (build r starts).map seedOf = starts.filter fun e => (r.shown? e.2).isSome := by
  unfold build
  rw [map_seedOf_spread]
  induction starts with
  | nil => rfl
  | cons e starts ih =>
      cases hshown : r.shown? e.2 with
      | none =>
          rw [List.filterMap_cons_none (by rw [seed_eq, hshown]; rfl),
            List.filter_cons_of_neg (by rw [hshown]; simp)]
          exact ih
      | some id =>
          obtain ⟨rfl, -, -⟩ := (r.shown?_eq_some_iff).1 hshown
          rw [List.filterMap_cons_some (by rw [seed_eq, hshown]; rfl),
            List.filter_cons_of_pos (by rw [hshown]; simp), List.map_cons, ih]
          rfl

end Animation
end DoomPatch
