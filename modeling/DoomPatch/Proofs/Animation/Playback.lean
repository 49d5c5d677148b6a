import DoomPatch.Proofs.Animation.Layout
import DoomPatch.Proofs.Text.Numeral

/-!
# Playing an animation

A game that reads a definition plays its groups: it begins with the first frame of the group of a role, shows
one frame of the group after the other and follows the jump behind the last one.  This module defines the
player and proves that it shows exactly the frames that the frame graph links.

* `Place` — a frame of a group by its index; `begin?`, `after?`, `place?` — where the player stands.
* `landing?` — where the jump of a group leads, read off the jump itself.
* `written?` — where it leads, read off the text that a definition shows: a label and a number counted from 1.
* `Shows` — the player stands at a frame of a group exactly when the graph visits that frame.

A label that several roles share says nothing, and the roles without a label of their own share one.  So texts
are followed where no more than one of the roles is such a role.
-/

namespace DoomPatch

/-- A frame of a group by its index. -/
structure Place where
  /-- The group. -/
  group : Group
  /-- How many frames of the group stand before it. -/
  index : Nat

/-- The frame at a place; none behind the last one. -/
def Place.frame? (p : Place) : Option Int := p.group.frames[p.index]?

/-- The label and the number that the text of a jump names.  Without a number it is the first frame. -/
def Jump.address? (text : String) : Option (String × Nat) :=
  match text.toList with
  | '#' :: rest =>
    match rest.dropWhile (· != ':') with
    | [] => some (String.ofList (rest.takeWhile (· != ':')), 1)
    | _ :: digits => (Numeral.readNat? 10 digits).map (String.ofList (rest.takeWhile (· != ':')), ·)
  | _ => none

namespace Animation

/-- Where the jump of a group leads; nowhere if the thing is removed. -/
def landing? (groups : Animation) (g : Group) : Option Place :=
  match g.jump with
  | .loop => some ⟨g, 0⟩
  | .remove => none
  | .into role k => (groups.group? role).map fun h => ⟨h, k⟩

/-- Where the text of the jump of a group leads: nothing means the group itself, `#REMOVE` nowhere, and all
else the group with that label and its frame of that number. -/
def written? (groups : Animation) (g : Group) : Option Place :=
  if g.jump.text = "" then some ⟨g, 0⟩
  else if g.jump.text = "#REMOVE" then none
  else
    match Jump.address? g.jump.text with
    | some (label, k + 1) => (groups.find? (·.role.tag == label)).map fun h => ⟨h, k⟩
    | _ => none

/-- Where the player begins: with the first frame of the group of a role, or where its jump leads if the group
has none. -/
def begin? (groups : Animation) (lead : Group → Option Place) (role : Role) : Option Place :=
  (groups.group? role).bind fun g => if g.frames = [] then lead g else some ⟨g, 0⟩

/-- Where the player goes on: to the following frame of the group, and from the last one where the jump
leads. -/
def after? (lead : Group → Option Place) (p : Place) : Option Place :=
  if p.index + 1 < p.group.frames.length then some ⟨p.group, p.index + 1⟩ else lead p.group

/-- Where the player stands after a number of steps. -/
def place? (groups : Animation) (lead : Group → Option Place) (role : Role) : Nat → Option Place
  | 0 => groups.begin? lead role
  | n + 1 => (groups.place? lead role n).bind (after? lead)

/-- The frame that the player shows after a number of steps. -/
def frameAt? (groups : Animation) (lead : Group → Option Place) (role : Role) (n : Nat) : Option Int :=
  (groups.place? lead role n).bind Place.frame?

/-- The player has stopped where nothing is visited, and stands at the visited frame elsewhere. -/
inductive Shows (groups : Animation) : Option Place → Option Int → Prop
  | stopped : Shows groups none none
  | frame {p : Place} {id : Int} (hmem : p.group ∈ groups) (hframe : p.frame? = some id) :
      Shows groups (some p) (some id)

/-- The player shows what is visited. -/
theorem Shows.frame?_eq {groups : Animation} {p : Option Place} {id : Option Int} (h : Shows groups p id) :
    p.bind Place.frame? = id := by
  cases h with
  | stopped => rfl
  | frame hmem hframe => exact hframe

/-- An element is found by a key that tells the elements apart. -/
theorem find?_key_of_mem {α κ : Type} [BEq κ] [LawfulBEq κ] {key : α → κ} {l : List α}
    (hnodup : (l.map key).Nodup) {a : α} (hmem : a ∈ l) : l.find? (key · == key a) = some a := by
  induction l with
  | nil => simp at hmem
  | cons b l ih =>
      rw [List.map_cons, List.nodup_cons] at hnodup
      rcases List.mem_cons.1 hmem with rfl | hmem
      · rw [List.find?_cons_of_pos (by simp)]
      · have hne : key b ≠ key a := fun heq => hnodup.1 (heq ▸ List.mem_map_of_mem hmem)
        rw [List.find?_cons_of_neg (by simpa using hne)]
        exact ih hnodup.2 hmem

theorem group?_of_mem {groups : Animation} (hroles : (groups.map (·.role)).Nodup) {g : Group}
    (hmem : g ∈ groups) : groups.group? g.role = some g :=
  find?_key_of_mem hroles hmem

/-- A frame that a group has taken can be shown. -/
theorem shown?_of_owner? {r : Reel} {groups before : Animation} (hlaid : ∀ g ∈ groups, Laid r groups g)
    (hbefore : before ⊆ groups) {id : Int} {role : Role} {k : Nat}
    (howner : owner? before id = some (role, k)) : r.shown? id = some id := by
  obtain ⟨h, hmem, -, hframe⟩ := exists_mem_of_owner? howner
  obtain ⟨_, _, _, hpath, _⟩ := hlaid h (hbefore hmem)
  exact hpath.shown?_of_mem (List.mem_of_getElem? hframe)

section Simulation

variable {r : Reel} {groups : Animation} (hroles : (groups.map (·.role)).Nodup)
  (hlaid : ∀ g ∈ groups, Laid r groups g)

include hroles hlaid

/-- The jump of a group leads to the frame that is named behind its stretch, and leads somewhere unless the
thing is removed. -/
theorem exists_path_landing? {g : Group} (hmem : g ∈ groups) :
    ∃ stop, r.Path g.start g.frames stop ∧ Shows groups (groups.landing? g) (r.shown? stop) ∧
      (g.jump ≠ .remove → r.shown? stop = some stop) := by
  obtain ⟨before, hbefore, stop, hpath, hsettles⟩ := hlaid g hmem
  refine ⟨stop, hpath, ?_⟩
  unfold landing?
  -- The jump is one of four kinds, and each says where the frame behind the stretch is.
  generalize g.jump = jump at hsettles ⊢
  cases hsettles with
  | gone hshown =>
      rw [hshown]
      exact ⟨.stopped, fun hjump => absurd rfl hjump⟩
  | taken howner =>
      have hshown := shown?_of_owner? hlaid hbefore howner
      obtain ⟨h, hmem, rfl, hframe⟩ := exists_mem_of_owner? howner
      simp only [group?_of_mem hroles (hbefore hmem), Option.map_some, hshown]
      exact ⟨.frame (hbefore hmem) hframe, fun _ => trivial⟩
  | again hfirst =>
      rw [hpath.shown?_of_mem (List.mem_of_getElem? hfirst)]
      exact ⟨.frame hmem hfirst, fun _ => rfl⟩
  | inside hlater =>
      rw [hpath.shown?_of_mem (List.mem_of_getElem? hlater)]
      simp only [group?_of_mem hroles hmem, Option.map_some]
      exact ⟨.frame hmem hlater, fun _ => trivial⟩

variable {lead : Group → Option Place} (hlead : ∀ g ∈ groups, lead g = groups.landing? g)

include hlead

/-- The player begins where the graph begins. -/
theorem shows_begin? {g : Group} (hmem : g ∈ groups) :
    Shows groups (groups.begin? lead g.role) (r.shown? g.start) := by
  obtain ⟨stop, hpath, hshows, -⟩ := exists_path_landing? hroles hlaid hmem
  have hgroup := group?_of_mem hroles hmem
  by_cases hempty : g.frames = []
  · -- An earlier group has the start already, so the group is nothing but a jump to it.
    have hstop := hpath.visited?_length
    rw [hempty] at hstop
    simp only [begin?, hgroup, Option.bind_some, if_pos hempty, hlead g hmem]
    rw [show r.shown? g.start = r.shown? stop from hstop]
    exact hshows
  · have hlength : 0 < g.frames.length := List.length_pos_iff.2 hempty
    simp only [begin?, hgroup, Option.bind_some, if_neg hempty]
    rw [← Reel.visited?_zero, hpath.visited?_eq hlength, List.getElem?_eq_getElem hlength]
    exact .frame hmem (List.getElem?_eq_getElem hlength)

/-- One step of the player is one step of the graph. -/
theorem shows_after? {p : Place} {id : Int} (hmem : p.group ∈ groups) (hframe : p.frame? = some id) :
    Shows groups (after? lead p) (r.next? id) := by
  obtain ⟨stop, hpath, hshows, -⟩ := exists_path_landing? hroles hlaid hmem
  have hindex : p.index < p.group.frames.length := (List.getElem?_eq_some_iff.1 hframe).1
  have hnext : r.visited? p.group.start (p.index + 1) = r.next? id := by
    rw [Reel.visited?_succ, hpath.visited?_eq hindex]
    show (p.frame?).bind r.next? = r.next? id
    rw [hframe]
    rfl
  unfold after?
  by_cases hlast : p.index + 1 < p.group.frames.length
  · rw [if_pos hlast, ← hnext, hpath.visited?_eq hlast, List.getElem?_eq_getElem hlast]
    exact .frame hmem (List.getElem?_eq_getElem hlast)
  · -- Behind the last frame the graph visits what the jump stands for.
    have hlength : p.index + 1 = p.group.frames.length := by omega
    rw [if_neg hlast, hlead p.group hmem, ← hnext, hlength, hpath.visited?_length]
    exact hshows

/-- However long it plays, the player stands where the graph stands. -/
theorem shows_place? {g : Group} (hmem : g ∈ groups) (n : Nat) :
    Shows groups (groups.place? lead g.role n) (r.visited? g.start n) := by
  induction n with
  | zero => exact shows_begin? hroles hlaid hlead hmem
  | succ n ih =>
      simp only [place?, Reel.visited?_succ]
      generalize groups.place? lead g.role n = p at ih
      generalize r.visited? g.start n = id at ih
      cases ih with
      | stopped => exact .stopped
      | frame hmem hframe => exact shows_after? hroles hlaid hlead hmem hframe

end Simulation

/-! ### Following texts -/

/-- No label contains the colon that ends it. -/
theorem colon_not_mem_tag (role : Role) : ∀ c ∈ role.tag.toList, (c != ':') = true := by
  cases role <;> simp [Role.tag]

/-- No label reads like the removal of a thing. -/
theorem tag_ne_remove (role : Role) : role.tag ≠ "REMOVE" := by
  cases role <;> simp only [Role.tag] <;> decide

/-- The text of a jump into a group names the label of its role and the frame, counted from 1. -/
theorem address?_text_into (role : Role) (k : Nat) :
    Jump.address? (Jump.into role k).text = some (role.tag, k + 1) := by
  have hlabel := colon_not_mem_tag role
  cases k with
  | zero =>
      have htext : (Jump.into role 0).text.toList = '#' :: (role.tag.toList ++ []) := by
        simp [Jump.text]
      simp only [Jump.address?, htext, List.takeWhile_append_of_pos hlabel,
        List.dropWhile_append_of_pos hlabel]
      simp
  | succ k =>
      have htext : (Jump.into role (k + 1)).text.toList =
          '#' :: (role.tag.toList ++ ':' :: Nat.toDigits 10 (k + 2)) := by
        simp [Jump.text, toString]
      simp only [Jump.address?, htext, List.takeWhile_append_of_pos hlabel,
        List.dropWhile_append_of_pos hlabel]
      simp [Numeral.readNat?_toDigits]

/-- A jump into a group does not read like a loop or a removal. -/
theorem text_into_ne (role : Role) (k : Nat) :
    (Jump.into role k).text ≠ "" ∧ (Jump.into role k).text ≠ "#REMOVE" := by
  have haddress := address?_text_into role k
  constructor
  · intro htext
    rw [htext] at haddress
    exact absurd haddress (by simp [Jump.address?])
  · intro htext
    rw [htext] at haddress
    have hlabel : some ("REMOVE", 1) = some (role.tag, k + 1) := haddress
    exact tag_ne_remove role (congrArg Prod.fst (Option.some.inj hlabel)).symm

/-- Where labels tell the groups apart, the text of a jump leads where the jump leads. -/
theorem written?_eq_landing? {r : Reel} {groups : Animation} (hroles : (groups.map (·.role)).Nodup)
    (hlabels : (groups.map (·.role.tag)).Nodup) (hlaid : ∀ g ∈ groups, Laid r groups g) {g : Group}
    (hmem : g ∈ groups) : groups.written? g = groups.landing? g := by
  obtain ⟨before, hbefore, stop, hpath, hsettles⟩ := hlaid g hmem
  unfold written? landing?
  generalize g.jump = jump at hsettles ⊢
  cases hsettles with
  | gone hshown => rfl
  | again hfirst => rfl
  | @taken other k howner =>
      obtain ⟨h, hmem, rfl, hframe⟩ := exists_mem_of_owner? howner
      rw [if_neg (text_into_ne h.role k).1, if_neg (text_into_ne h.role k).2]
      simp only [address?_text_into, find?_key_of_mem hlabels (hbefore hmem),
        group?_of_mem hroles (hbefore hmem)]
  | @inside k hlater =>
      rw [if_neg (text_into_ne g.role (k + 1)).1, if_neg (text_into_ne g.role (k + 1)).2]
      simp only [address?_text_into, find?_key_of_mem hlabels hmem, group?_of_mem hroles hmem]

/-! ### The animations of a definition -/

/-- Groups play a frame graph: from each start the player shows what the graph visits, and no jump leads
behind the last frame of a group. -/
def Plays (r : Reel) (starts : List (Role × Int)) (groups : Animation) (lead : Group → Option Place) : Prop :=
  (∀ e ∈ starts, ∀ n, groups.frameAt? lead e.1 n = r.visited? e.2 n) ∧
    ∀ g ∈ groups, g.jump ≠ .remove →
      ∃ p, lead g = some p ∧ p.group ∈ groups ∧ p.index < p.group.frames.length

theorem sublist_map_role_build (r : Reel) (starts : List (Role × Int)) :
    ((build r starts).map (·.role)).Sublist (starts.map Prod.fst) := by
  have hmap : (build r starts).map (·.role) = ((build r starts).map seedOf).map Prod.fst := by
    rw [List.map_map]
    rfl
  rw [hmap, map_seedOf_build]
  exact List.filter_sublist.map Prod.fst

/-- A start without a group is one from which nothing is visited. -/
theorem visited?_eq_none_of_shown? {r : Reel} {start : Int} (hshown : r.shown? start = none) (n : Nat) :
    r.visited? start n = none := by
  induction n with
  | zero => exact hshown
  | succ n ih => rw [Reel.visited?_succ, ih]; rfl

theorem frameAt?_eq_none_of_group? {groups : Animation} {lead : Group → Option Place} {role : Role}
    (hgroup : groups.group? role = none) (n : Nat) : groups.frameAt? lead role n = none := by
  have hplace : ∀ n, groups.place? lead role n = none := by
    intro n
    induction n with
    | zero => simp [place?, begin?, hgroup]
    | succ n ih => simp [place?, ih]
  rw [frameAt?, hplace n]
  rfl

/-- Groups with different roles play the graph if their jumps are followed where they lead. -/
theorem plays_build_of_lead (r : Reel) (starts : List (Role × Int)) (hroles : (starts.map Prod.fst).Nodup)
    {lead : Group → Option Place} (hlead : ∀ g ∈ build r starts, lead g = (build r starts).landing? g) :
    Plays r starts (build r starts) lead := by
  have hgroups : ((build r starts).map (·.role)).Nodup := hroles.sublist (sublist_map_role_build r starts)
  have hlaid := laid_of_mem_build r starts
  constructor
  · rintro ⟨role, start⟩ hmem n
    cases hshown : r.shown? start with
    | some id =>
        have hseed : (role, start) ∈ (build r starts).map seedOf := by
          rw [map_seedOf_build]
          exact List.mem_filter.2 ⟨hmem, by simp [hshown]⟩
        obtain ⟨g, hg, hgseed⟩ := List.mem_map.1 hseed
        obtain ⟨rfl, rfl⟩ := Prod.mk.inj hgseed
        exact (shows_place? hgroups hlaid hlead hg n).frame?_eq
    | none =>
        have hgroup : (build r starts).group? role = none := by
          rw [group?, List.find?_eq_none]
          intro g hg hrole
          have hgseed : (g.role, g.start) ∈ starts.filter fun e => (r.shown? e.2).isSome := by
            rw [← map_seedOf_build]
            exact List.mem_map_of_mem hg
          obtain ⟨hgmem, hgshown⟩ := List.mem_filter.1 hgseed
          -- Roles differ, so the group was seeded with this very start.
          have hsame : starts.find? (·.1 == g.role) = some (g.role, g.start) :=
            find?_key_of_mem hroles hgmem
          have hhere : starts.find? (·.1 == role) = some (role, start) := find?_key_of_mem hroles hmem
          rw [show g.role = role by simpa using hrole, hhere] at hsame
          have hstart : start = g.start := congrArg Prod.snd (Option.some.inj hsame)
          rw [← hstart, hshown] at hgshown
          cases hgshown
        rw [frameAt?_eq_none_of_group? hgroup, visited?_eq_none_of_shown? hshown]
  · intro g hg hjump
    obtain ⟨stop, -, hshows, hstop⟩ := exists_path_landing? hgroups hlaid hg
    rw [hstop hjump] at hshows
    rw [hlead g hg]
    generalize (build r starts).landing? g = place at hshows
    cases hshows with
    | @frame p id hmem hframe => exact ⟨p, rfl, hmem, (List.getElem?_eq_some_iff.1 hframe).1⟩

/-- A label of its own tells a role from all others. -/
theorem role_eq_of_tag_eq {role other : Role} (hnamed : role ∈ Role.named) (htag : role.tag = other.tag) :
    role = other := by
  have hpairs : ∀ a ∈ Role.named, ∀ b ∈ Role.named, a.tag = b.tag → a = b := by decide
  have hunnamed : ∀ a ∈ Role.named, a.tag ≠ "UNKNOWN" := by decide
  cases other with
  | other number => exact absurd htag (hunnamed role hnamed)
  | _ => exact hpairs role hnamed _ (by decide) htag

/-- Different roles have different labels, if no more than one of them is without a label of its own. -/
theorem nodup_tags {starts : List (Role × Int)} (hroles : (starts.map Prod.fst).Nodup)
    (hnamed : (starts.filter fun e => e.1 ∉ Role.named).length ≤ 1) : (starts.map fun e => e.1.tag).Nodup := by
  rw [List.Nodup, List.pairwise_map] at hroles ⊢
  refine hroles.imp_of_mem fun {e e'} he he' hne htag => ?_
  by_cases hrole : e.1 ∈ Role.named
  · exact hne (role_eq_of_tag_eq hrole htag)
  · -- Then the other one has no label of its own either.
    have hrole' : e'.1 ∉ Role.named := fun hmem => hne (role_eq_of_tag_eq hmem htag.symm).symm
    have hmem : e ∈ starts.filter fun e => e.1 ∉ Role.named := List.mem_filter.2 ⟨he, by simpa using hrole⟩
    have hmem' : e' ∈ starts.filter fun e => e.1 ∉ Role.named := List.mem_filter.2 ⟨he', by simpa using hrole'⟩
    have hsame : e = e' := by
      generalize (starts.filter fun e => e.1 ∉ Role.named) = unnamed at hnamed hmem hmem'
      match unnamed with
      | [] => cases hmem
      | [x] => exact (List.mem_singleton.1 hmem).trans (List.mem_singleton.1 hmem').symm
      | _ :: _ :: _ => simp at hnamed
    exact hne (congrArg Prod.fst hsame)

/-- **Grouping keeps the meaning of animations.**  For every reel and every list of starts with different
roles, playing the groups shows the frames that the reel links from each start, for ever or up to where they
stop, and every jump leads to a frame that its group has.  The texts of the jumps say the same, if no more than
one of the roles is without a label of its own. -/
theorem build_plays (r : Reel) (starts : List (Role × Int)) (hroles : (starts.map Prod.fst).Nodup) :
    Plays r starts (build r starts) (build r starts).landing? ∧
      ((starts.filter fun e => e.1 ∉ Role.named).length ≤ 1 →
        Plays r starts (build r starts) (build r starts).written?) := by
  constructor
  · exact plays_build_of_lead r starts hroles fun g hg => rfl
  · intro hnamed
    have hsublist := sublist_map_role_build r starts
    have hgroups : ((build r starts).map (·.role)).Nodup := hroles.sublist hsublist
    have hgroupLabels : ((build r starts).map (·.role.tag)).Nodup := by
      have hsub := hsublist.map Role.tag
      rw [List.map_map, List.map_map] at hsub
      exact (nodup_tags hroles hnamed).sublist hsub
    apply plays_build_of_lead r starts hroles
    intro g hg
    exact written?_eq_landing? hgroups hgroupLabels (laid_of_mem_build r starts) hg

/-- Frame 4 enters the loop of frames 2 and 3 in the middle, and so does the chain that leads to it. -/
theorem build_plays_midway :
    let r := Reel.ofList [(1, { next := 2 }), (2, { next := 3 }), (3, { next := 2 }), (4, { next := 3 })]
    let starts : List (Role × Int) := [(.spawn, 1), (.other 13, 4)]
    ((starts.map Prod.fst).Nodup ∧ (starts.filter fun e => e.1 ∉ Role.named).length ≤ 1) ∧
      (build r starts).map (fun g => (g.frames, g.jump.text)) = [([1, 2, 3], "#IDLE:2"), ([4], "#IDLE:3")] ∧
      Plays r starts (build r starts) (build r starts).landing? ∧
      Plays r starts (build r starts) (build r starts).written? := by
  intro r starts
  have hroles : (starts.map Prod.fst).Nodup := by decide
  have hnamed : (starts.filter fun e => e.1 ∉ Role.named).length ≤ 1 := by decide
  exact ⟨⟨hroles, hnamed⟩, by decide, (build_plays r starts hroles).1, (build_plays r starts hroles).2 hnamed⟩

/-- Two roles without labels of their own: frame 3 goes on with itself, as the second frame of its group, and the
text of the jump leads to the group of the other role, which has one frame only. -/
theorem unnamed_roles_share_label :
    let r := Reel.ofList [(1, { next := 0 }), (2, { next := 3 }), (3, { next := 3 })]
    let starts : List (Role × Int) := [(.other 13, 1), (.other 14, 2)]
    (starts.map Prod.fst).Nodup ∧
      (build r starts).map (fun g => (g.frames, g.jump.text)) = [([1], "#REMOVE"), ([2, 3], "#UNKNOWN:2")] ∧
      r.visited? 2 2 = some 3 ∧ (build r starts).frameAt? (build r starts).written? (.other 14) 2 = none ∧
      ¬Plays r starts (build r starts) (build r starts).written? := by
  intro r starts
  have hvisited : r.visited? 2 2 = some 3 := by decide
  have hplayed : (build r starts).frameAt? (build r starts).written? (.other 14) 2 = none := by decide
  refine ⟨by decide, by decide, hvisited, hplayed, fun hplays => ?_⟩
  have hsame := hplays.1 (.other 14, 2) (by decide) 2
  rw [hvisited, hplayed] at hsame
  cases hsame

end Animation
end DoomPatch
