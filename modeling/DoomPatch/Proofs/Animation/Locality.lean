import Mathlib.Data.List.Basic
import DoomPatch.Proofs.Animation.Layout
import DoomPatch.Proofs.Chain.Locality

/-!
# Animations depend on what they visit

The groups of an entity are built from the frames along its chains.  Two reels that agree on these frames build
the same groups, however many other frames either of them has.

* `take_add_fuel` — the capacity of a reel is fuel enough; more changes nothing.
* `take_congr`, `fill_congr`, `build_congr` — reels that agree take the same frames and build the same groups.
* `within_of_mem_build` — the frames of the groups are among those on which the reels have to agree.
-/

namespace DoomPatch
namespace Animation

variable {r r' : Reel} {within : Int → Prop}

/-- More fuel than the reel has frames left changes nothing. -/
theorem take_add_fuel {before : Animation} {role : Role} {own : List Int} (hown : r.Seen own) {fuel : Nat}
    (hfuel : r.capacity < own.length + fuel) (extra : Nat) (id : Int) :
    take r before role own (fuel + extra) id = take r before role own fuel id := by
  induction fuel generalizing own id with
  | zero =>
      -- Without fuel there would be more frames than the reel has.
      have hlength := hown.length_le_capacity
      omega
  | succ fuel ih =>
      rw [show fuel + 1 + extra = (fuel + extra) + 1 by omega]
      rcases take_ends_or_frame r before role own id with ⟨jump, -, htake⟩ | ⟨f, -, -, hfresh, hframe, htake⟩
      · rw [htake, htake]
      · rw [htake, htake]
        refine ih (hown.snoc hfresh hframe) ?_ f.next
        rw [List.length_append, List.length_singleton]
        omega

/-- Reels that agree take the same frames with the same fuel. -/
theorem take_congr (hagree : Reel.Agree r r' within) (before : Animation) (role : Role) (own : List Int)
    (fuel : Nat) {id : Int} (hid : within id) :
    take r' before role own fuel id = take r before role own fuel id := by
  induction fuel generalizing own id with
  | zero => rfl
  | succ fuel ih =>
      simp only [take]
      by_cases hnull : id = 0
      · rw [if_pos hnull, if_pos hnull]
      · rw [if_neg hnull, if_neg hnull, hagree.frame?_eq id hid hnull]
        cases howner : owner? before id with
        | some place => rfl
        | none =>
            cases hidx : own.idxOf? id with
            | some k => cases k <;> rfl
            | none =>
                cases hframe : r.frame? id with
                | none => rfl
                | some f => exact ih (own ++ [id]) (hagree.closed id f hid hnull hframe)

/-- Reels that agree fill a group alike, whatever their capacities. -/
theorem fill_congr (hagree : Reel.Agree r r' within) (before : Animation) {g : Group} (hg : within g.start) :
    fill r' before g = fill r before g := by
  -- Both are given the fuel of both, which neither needs.
  have htake : take r' before g.role [] (r'.capacity + 1) g.start =
      take r before g.role [] (r.capacity + 1) g.start := by
    calc take r' before g.role [] (r'.capacity + 1) g.start
        = take r' before g.role [] (r'.capacity + 1 + r.capacity) g.start :=
          (take_add_fuel r'.seen_nil (by simp) r.capacity g.start).symm
      _ = take r before g.role [] (r.capacity + 1 + r'.capacity) g.start := by
          rw [take_congr hagree before g.role [] _ hg, show r'.capacity + 1 + r.capacity =
            r.capacity + 1 + r'.capacity by omega]
      _ = take r before g.role [] (r.capacity + 1) g.start :=
          take_add_fuel r.seen_nil (by simp) r'.capacity g.start
  unfold fill
  rw [htake]

theorem spread_congr (hagree : Reel.Agree r r' within) {seeds : Animation} (hseeds : ∀ g ∈ seeds, within g.start) :
    spread r' seeds = spread r seeds := by
  have hfold : ∀ done : Animation,
      seeds.foldl (fun done g => done ++ [fill r' done g]) done =
        seeds.foldl (fun done g => done ++ [fill r done g]) done := by
    induction seeds with
    | nil => exact fun done => rfl
    | cons g seeds ih =>
        intro done
        rw [List.foldl_cons, List.foldl_cons, fill_congr hagree done (hseeds g List.mem_cons_self)]
        exact ih (fun g' hmem => hseeds g' (List.mem_cons_of_mem g hmem)) _
  exact hfold []

/-- Reels that agree seed the same groups. -/
theorem seed_congr (hagree : Reel.Agree r r' within) (role : Role) {start : Int} (hstart : within start) :
    seed r' role start = seed r role start := by
  unfold seed
  by_cases hnull : start = 0
  · rw [if_pos (Or.inl hnull), if_pos (Or.inl hnull)]
  · rw [hagree.frame?_eq start hstart hnull]

theorem start_of_seed {role : Role} {start : Int} {g : Group} (hseed : seed r role start = some g) :
    g.start = start := by
  unfold seed at hseed
  split at hseed
  · cases hseed
  · cases hseed
    rfl

/-- Reels that agree from all starts build the same groups. -/
theorem build_congr (hagree : Reel.Agree r r' within) {starts : List (Role × Int)}
    (hstarts : ∀ e ∈ starts, within e.2) : build r' starts = build r starts := by
  have hseeds : (starts.filterMap fun e => seed r' e.1 e.2) = starts.filterMap fun e => seed r e.1 e.2 :=
    List.filterMap_congr fun e hmem => seed_congr hagree e.1 (hstarts e hmem)
  unfold build
  rw [hseeds]
  apply spread_congr hagree
  intro g hmem
  obtain ⟨e, hmem, hseed⟩ := List.mem_filterMap.1 hmem
  rw [start_of_seed hseed]
  exact hstarts e hmem

/-- The frames of the groups exist, and the reels agree on them. -/
theorem within_of_mem_build (hagree : Reel.Agree r r' within) {starts : List (Role × Int)}
    (hstarts : ∀ e ∈ starts, within e.2) {g : Group} (hg : g ∈ build r starts) {id : Int} (hid : id ∈ g.frames) :
    within id ∧ r.shown? id = some id := by
  have hseed : seedOf g ∈ (build r starts).map seedOf := List.mem_map_of_mem hg
  rw [map_seedOf_build] at hseed
  obtain ⟨-, -, stop, hpath, -⟩ := laid_of_mem_build r starts g hg
  have hstart : within g.start := hstarts _ (List.mem_filter.1 hseed).1
  exact ⟨(hagree.within_of_path hstart hpath).2 id hid, hpath.shown?_of_mem hid⟩

end Animation
end DoomPatch
