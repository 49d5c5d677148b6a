import DoomPatch.Proofs.Animation.Layout
import DoomPatch.Proofs.Chain.Reach
import Mathlib.Data.List.Nodup

/-!
# Which frames a group takes

A chain is followed with a memory of its own frames, a group with one memory for the whole animation.  The two agree:
whatever an earlier group has taken is followed by frames that were taken as well, so that stopping at the first of
them loses nothing.

* `Reel.Closed` — what follows a frame of a set is in the set again, or ends chains; chains are such sets.
* `Reel.walk_append_of_closed` — a walk that has seen a closed set as well is the walk up to the set, and this is the
  walk without the set.
* `take_eq_walk` — taking frames is walking with all frames seen that are taken.
* `Shares` — each group has the frames of its chain that no chain before it has; `shares_spread` — so it is after the
  frames are distributed.
* `spread_shares` — what follows for the groups together, and for the owner of a frame.
-/

namespace DoomPatch

namespace Reel

variable {r : Reel} {start id : Int}

/-! ### Closed sets of frames -/

/-- What follows a frame of the set is in the set again, or ends chains. -/
def Closed (r : Reel) (within : Int → Prop) : Prop :=
  ∀ id f, within id → r.frame? id = some f → within f.next ∨ f.next = 0 ∨ r.frame? f.next = none

theorem closed_chains (r : Reel) (starts : List Int) : r.Closed fun id => ∃ start ∈ starts, id ∈ r.chain start := by
  rintro id f ⟨start, hstart, hmem⟩ hframe
  rcases beside_next hmem hframe with hnext | hends
  · exact .inl ⟨start, hstart, hnext⟩
  · exact .inr hends

/-- A walk that starts in a closed set stays there. -/
theorem Closed.mem_of_mem_walk {within : Int → Prop} (hclosed : r.Closed within) (hstart : within start)
    {seen : List Int} {fuel : Nat} (hmem : id ∈ r.walk seen fuel start) : within id := by
  -- The numbers that end chains are no frames, so they may be added to the set.
  have hall := of_mem_walk (fun id => within id ∨ id = 0 ∨ r.frame? id = none) ?_ (.inl hstart) hmem
  · obtain ⟨hwithin | hnull | hnone, hne, hframe⟩ := hall
    · exact hwithin
    · exact absurd hnull hne
    · rw [hnone] at hframe
      cases hframe
  · rintro id f (hwithin | hnull | hnone) hne hframe
    · exact hclosed id f hwithin hframe
    · exact absurd hnull hne
    · rw [hnone] at hframe
      cases hframe

/-- The order in which frames were seen does not matter. -/
theorem walk_congr_seen {seen seen' : List Int} (hseen : ∀ x, x ∈ seen ↔ x ∈ seen') (fuel : Nat) (id : Int) :
    r.walk seen fuel id = r.walk seen' fuel id := by
  induction fuel generalizing seen seen' id with
  | zero => rfl
  | succ fuel ih =>
      have hmore : ∀ x, x ∈ id :: seen ↔ x ∈ id :: seen' := by simp [hseen]
      simp only [walk, hseen id]
      split
      · rfl
      · simp only [ih hmore]

/-- A walk that has seen the frames of a closed set as well is the walk without them, and stops at the first of
them. -/
theorem walk_append_of_closed {taken : List Int} (hclosed : r.Closed (· ∈ taken)) (seen : List Int) (fuel : Nat)
    (id : Int) :
    r.walk (seen ++ taken) fuel id = (r.walk seen fuel id).filter (fun x => !taken.contains x) ∧
      r.walk (seen ++ taken) fuel id <+: r.walk seen fuel id := by
  induction fuel generalizing seen id with
  | zero => exact ⟨rfl, List.prefix_rfl⟩
  | succ fuel ih =>
      by_cases htaken : id ∈ taken
      · -- From here on the walk meets frames of the set only.
        have hstops : r.Stops (seen ++ taken) id := .inr (.inl (List.mem_append_right _ htaken))
        rw [walk_of_stops hstops]
        refine ⟨(List.filter_eq_nil_iff.2 fun x hx => ?_).symm, List.nil_prefix⟩
        simpa using hclosed.mem_of_mem_walk htaken hx
      · rcases r.stops_or_frame seen id with hstops | ⟨f, hne, hfresh, hframe⟩
        · have hstops' : r.Stops (seen ++ taken) id :=
            hstops.imp_right fun h => h.imp_left (List.mem_append_left _)
          rw [walk_of_stops hstops, walk_of_stops hstops']
          exact ⟨rfl, List.prefix_rfl⟩
        · have hfresh' : id ∉ seen ++ taken := by simp [hfresh, htaken]
          obtain ⟨hfilter, hprefix⟩ := ih (id :: seen) f.next
          rw [List.cons_append] at hfilter hprefix
          rw [walk_of_frame hne hfresh hframe, walk_of_frame hne hfresh' hframe]
          refine ⟨?_, (List.prefix_cons_inj id).2 hprefix⟩
          rw [hfilter, List.filter_cons_of_pos (by simpa using htaken)]

/-! ### Walks without repeats -/

theorem nodup_walk (r : Reel) (seen : List Int) (fuel : Nat) (id : Int) :
    (r.walk seen fuel id).Nodup ∧ ∀ x ∈ r.walk seen fuel id, x ∉ seen := by
  induction fuel generalizing seen id with
  | zero => simp [walk]
  | succ fuel ih =>
      rcases r.stops_or_frame seen id with hstops | ⟨f, hne, hfresh, hframe⟩
      · rw [walk_of_stops hstops]
        simp
      · obtain ⟨hnodup, hnew⟩ := ih (id :: seen) f.next
        rw [walk_of_frame hne hfresh hframe]
        refine ⟨List.nodup_cons.2 ⟨fun hmem => hnew id hmem List.mem_cons_self, hnodup⟩, fun x hx => ?_⟩
        rcases List.mem_cons.1 hx with rfl | hx
        · exact hfresh
        · exact fun hseen => hnew x hx (List.mem_cons_of_mem _ hseen)

end Reel

namespace Animation

variable {r : Reel} {groups : Animation}

/-! ### Owners -/

theorem owner?_eq_none_iff {id : Int} : owner? groups id = none ↔ ∀ g ∈ groups, id ∉ g.frames := by
  simp [owner?, List.findSome?_eq_none_iff, List.idxOf?_eq_none_iff]

/-- The role that owns a frame is that of the first group with the frame. -/
theorem owner?_map_fst (groups : Animation) (id : Int) :
    (owner? groups id).map (·.1) = (groups.find? (·.frames.contains id)).map (·.role) := by
  induction groups with
  | nil => rfl
  | cons g groups ih =>
      rw [owner?, List.findSome?_cons, List.find?_cons]
      cases hidx : g.frames.idxOf? id with
      | none =>
          have hmem : g.frames.contains id = false := by simpa using List.idxOf?_eq_none_iff.1 hidx
          rw [hmem]
          exact ih
      | some k =>
          have hmem : g.frames.contains id = true := by
            simpa using List.mem_of_getElem? (getElem?_of_idxOf? hidx)
          rw [hmem]
          rfl

/-! ### Taking is walking -/

/-- A number at which taking ends stops a walk that has seen all frames that are taken. -/
theorem Settles.stops {before : Animation} {role : Role} {own : List Int} {stop : Int} {jump : Jump}
    (hsettles : Settles r before role own stop jump) : r.Stops (own ++ before.flatMap (·.frames)) stop := by
  cases hsettles with
  | gone hshown => exact ((r.shown?_eq_none_iff).1 hshown).imp_right .inr
  | taken howner =>
      obtain ⟨g, hg, -, hframe⟩ := exists_mem_of_owner? howner
      exact .inr (.inl (List.mem_append_right _ (List.mem_flatMap.2 ⟨g, hg, List.mem_of_getElem? hframe⟩)))
  | again hfirst => exact .inr (.inl (List.mem_append_left _ (List.mem_of_getElem? hfirst)))
  | inside hlater => exact .inr (.inl (List.mem_append_left _ (List.mem_of_getElem? hlater)))

/-- Taking frames is walking with all frames seen that are taken. -/
theorem take_eq_walk (r : Reel) (before : Animation) (role : Role) (own : List Int) (fuel : Nat) (id : Int) :
    (take r before role own fuel id).1 = own ++ r.walk (own ++ before.flatMap (·.frames)) fuel id := by
  induction fuel generalizing own id with
  | zero => simp [take, Reel.walk]
  | succ fuel ih =>
      rcases take_ends_or_frame r before role own id with
        ⟨jump, hsettles, htake⟩ | ⟨f, hne, howner, hfresh, hframe, htake⟩
      · rw [htake, Reel.walk_of_stops hsettles.stops, List.append_nil]
      · have hunseen : id ∉ own ++ before.flatMap (·.frames) := by
          have hfree := owner?_eq_none_iff.1 howner
          simp only [List.mem_append, List.mem_flatMap, not_or, not_exists, not_and]
          exact ⟨hfresh, hfree⟩
        have hseen : ∀ x, x ∈ own ++ [id] ++ before.flatMap (·.frames) ↔
            x ∈ id :: (own ++ before.flatMap (·.frames)) := by
          simp [or_left_comm]
        rw [htake, ih, Reel.walk_of_frame hne hunseen hframe, Reel.walk_congr_seen hseen, List.append_assoc]
        rfl

/-! ### Shares -/

/-- Each group has the frames of its chain that no chain before it has, and these stand at the front of the chain. -/
inductive Shares (r : Reel) : Animation → Prop
  | nil : Shares r []
  | snoc {done : Animation} {g : Group} (hdone : Shares r done)
      (hframes : g.frames = (r.chain g.start).filter fun id => done.all fun h => !(r.chain h.start).contains id)
      (hfront : g.frames <+: r.chain g.start) : Shares r (done ++ [g])

namespace Shares

/-- Together the groups have what their chains have. -/
theorem mem_frames_iff (hshares : Shares r groups) (id : Int) :
    (∃ g ∈ groups, id ∈ g.frames) ↔ ∃ g ∈ groups, id ∈ r.chain g.start := by
  induction hshares with
  | nil => simp
  | @snoc done g hdone hframes hfront ih =>
      have hlast : id ∈ g.frames ↔ id ∈ r.chain g.start ∧ ¬ ∃ h ∈ done, id ∈ r.chain h.start := by
        rw [hframes, List.mem_filter]
        simp
      have hsplit : ∀ p : Group → Prop, (∃ h ∈ done ++ [g], p h) ↔ (∃ h ∈ done, p h) ∨ p g := by
        intro p
        simp [or_and_right, exists_or]
      rw [hsplit, hsplit, ih, hlast]
      by_cases hbefore : ∃ h ∈ done, id ∈ r.chain h.start <;> simp [hbefore]

/-- A filled group has its share behind groups that have theirs. -/
theorem fill (hshares : Shares r groups) (g : Group) : Shares r (groups ++ [fill r groups g]) := by
  have htaken : ∀ x, x ∈ groups.flatMap (·.frames) ↔ ∃ h ∈ groups, x ∈ r.chain h.start := by
    intro x
    rw [List.mem_flatMap]
    exact hshares.mem_frames_iff x
  have hclosed : r.Closed (· ∈ groups.flatMap (·.frames)) := by
    have hchains := r.closed_chains (groups.map (·.start))
    simpa [Reel.Closed, htaken] using hchains
  have hwalk : (Animation.fill r groups g).frames = r.walk ([] ++ groups.flatMap (·.frames)) (r.capacity + 1) g.start :=
    take_eq_walk r groups g.role [] (r.capacity + 1) g.start
  obtain ⟨hfilter, hprefix⟩ := Reel.walk_append_of_closed hclosed [] (r.capacity + 1) g.start
  rw [← hwalk, r.walk_eq_chain (Nat.le_succ _)] at hfilter hprefix
  refine .snoc hshares ?_ hprefix
  rw [hfilter]
  refine List.filter_congr fun x _ => ?_
  have hsame := htaken x
  rw [Bool.eq_iff_iff]
  simpa using not_congr hsame

theorem foldl (hshares : Shares r groups) (seeds : Animation) :
    Shares r (seeds.foldl (fun done g => done ++ [Animation.fill r done g]) groups) := by
  induction seeds generalizing groups with
  | nil => exact hshares
  | cons seed seeds ih => exact ih (hshares.fill seed)

theorem getElem? (hshares : Shares r groups) {i : Nat} {g : Group} (hg : groups[i]? = some g) :
    g.frames = (r.chain g.start).filter (fun id => (List.take i groups).all fun h => !(r.chain h.start).contains id) ∧
      g.frames <+: r.chain g.start := by
  induction hshares with
  | nil => cases hg
  | @snoc done last hdone hframes hfront ih =>
      by_cases hi : i < done.length
      · rw [List.getElem?_append_left hi] at hg
        rw [List.take_append_of_le_length (Nat.le_of_lt hi)]
        exact ih hg
      · rw [List.getElem?_append_right (Nat.le_of_not_lt hi), List.getElem?_singleton] at hg
        split at hg
        · next hzero =>
          cases hg
          have hlength : i = done.length := by omega
          rw [hlength, List.take_left]
          exact ⟨hframes, hfront⟩
        · cases hg

theorem disjoint (hshares : Shares r groups) : groups.Pairwise fun g h => ∀ id ∈ g.frames, id ∉ h.frames := by
  induction hshares with
  | nil => exact .nil
  | @snoc done g hdone hframes hfront ih =>
      refine List.pairwise_append.2 ⟨ih, List.pairwise_singleton _ _, fun h hh last hlast id hid hmem => ?_⟩
      rw [List.mem_singleton.1 hlast, hframes, List.mem_filter] at hmem
      obtain ⟨h', hh', hchain⟩ := (hdone.mem_frames_iff id).1 ⟨h, hh, hid⟩
      have hnone : ∀ h ∈ done, id ∉ r.chain h.start := by simpa using hmem.2
      exact hnone h' hh' hchain

theorem nodup (hshares : Shares r groups) : (groups.flatMap (·.frames)).Nodup := by
  refine List.nodup_flatMap.2 ⟨fun g hg => ?_, hshares.disjoint.imp fun hdisjoint id hg hh => hdisjoint id hg hh⟩
  obtain ⟨i, hi⟩ := List.getElem?_of_mem hg
  exact (r.nodup_walk [] _ _).1.sublist (hshares.getElem? hi).2.sublist

/-- The group that has a frame is the first one whose chain has it. -/
theorem find?_eq (hshares : Shares r groups) (id : Int) :
    groups.find? (·.frames.contains id) = groups.find? fun g => (r.chain g.start).contains id := by
  induction hshares with
  | nil => rfl
  | @snoc done g hdone hframes hfront ih =>
      rw [List.find?_append, List.find?_append, ih]
      cases hbefore : done.find? fun h => (r.chain h.start).contains id with
      | some h => rfl
      | none =>
          -- No chain before has the frame, so the last group takes it if its chain has it.
          have hfree : ∀ h ∈ done, id ∉ r.chain h.start := by simpa using hbefore
          have hlast : g.frames.contains id = (r.chain g.start).contains id := by
            rw [hframes, Bool.eq_iff_iff]
            simpa using fun _ => hfree
          simp only [List.find?_singleton, hlast]

end Shares

theorem shares_spread (r : Reel) (seeds : Animation) : Shares r (spread r seeds) := Shares.nil.foldl seeds

/-- **The two ways of following frames agree.**  For every reel and every list of seeds, the frames of each group are
those of the chain from its start without those of the chains before it, and they stand at the front of the chain.  So
no frame is listed twice, together the groups have the frames that are visited from the starts, and a frame is owned by
the first role whose chain has it. -/
theorem spread_shares (r : Reel) (seeds : Animation) :
    (spread r seeds).map seedOf = seeds.map seedOf ∧
    (∀ i g, (spread r seeds)[i]? = some g →
      g.frames = (r.chain g.start).filter
          (fun id => (List.take i (spread r seeds)).all fun h => !(r.chain h.start).contains id) ∧
        g.frames <+: r.chain g.start) ∧
    (spread r seeds).Pairwise (fun g h => ∀ id ∈ g.frames, id ∉ h.frames) ∧
    ((spread r seeds).flatMap (·.frames)).Nodup ∧
    (∀ id, id ∈ (spread r seeds).flatMap (·.frames) ↔ ∃ g ∈ seeds, ∃ n, r.visited? g.start n = some id) ∧
    ∀ id, (owner? (spread r seeds) id).map (·.1) =
      (seeds.find? fun g => (r.chain g.start).contains id).map (·.role) := by
  have hseeds := map_seedOf_spread r seeds
  have hshares := shares_spread r seeds
  refine ⟨hseeds, fun i g => hshares.getElem?, hshares.disjoint, hshares.nodup, fun id => ?_, fun id => ?_⟩
  · have hstarts : ∀ groups : Animation,
        (∃ g ∈ groups, id ∈ r.chain g.start) ↔ ∃ e ∈ groups.map seedOf, id ∈ r.chain e.2 := by simp [seedOf]
    rw [List.mem_flatMap, hshares.mem_frames_iff, hstarts, hseeds, ← hstarts]
    simp only [Reel.mem_chain_iff_visited?]
  · have hroles : ∀ groups : Animation, (groups.find? fun g => (r.chain g.start).contains id).map (·.role) =
        ((groups.map seedOf).find? fun e => (r.chain e.2).contains id).map (·.1) := by
      intro groups
      rw [List.find?_map, Option.map_map]
      rfl
    rw [owner?_map_fst, hshares.find?_eq, hroles, hseeds, ← hroles]

/-- The second role enters the loop of the first from outside, and the third starts inside it. -/
theorem spread_shares_loop :
    let r := Reel.ofList [(2, { next := 3 }), (3, { next := 2 }), (4, { next := 5 }), (5, { next := 3 })]
    let groups := spread r
      [{ role := .spawn, start := 2 }, { role := .see, start := 4 }, { role := .melee, start := 3 }]
    ∃ g, groups[1]? = some g ∧ r.chain g.start = [4, 5, 3, 2] ∧
      g.frames = (r.chain g.start).filter
          (fun id => (List.take 1 groups).all fun h => !(r.chain h.start).contains id) ∧
        g.frames <+: r.chain g.start := by
  intro r groups
  have hg : groups[1]? = some ⟨.see, 4, [4, 5], .into .spawn 1⟩ := by decide
  exact ⟨_, hg, by decide, (spread_shares r _).2.1 1 _ hg⟩

end Animation
end DoomPatch
