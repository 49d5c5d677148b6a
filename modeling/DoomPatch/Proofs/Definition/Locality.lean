import Mathlib.Data.List.Find
import DoomPatch.Definition.Attack
import DoomPatch.Definition.Weapon
import DoomPatch.Proofs.Animation.Locality

/-!
# What definitions depend on

A definition reads the frames that its animations visit, the names of the sprites they show and the names of
the things they refer to.  Two views that agree on these write the same definition.

* `View.Alike` — two views agree on a set of frames.
* `Alike.storyboard_eq` — then animations inside the set are shown alike.
* `WeaponDefinition.storyboard_eq`, `WeaponDefinition.block_eq` — the definitions of weapons.
* `ThingDefinition.storyboard_eq`, `ThingDefinition.attacks_eq`, `ThingDefinition.explosion?_eq`,
  `Special.isMonster_eq`, `Pickup.ofThing?_eq` — the parts of things that frames decide.
* `AttackDefinition.block_eq` — the definitions of projectiles.
-/

namespace DoomPatch

/-- Two views agree on a set of frames: the frames are the same, their sprites are named alike, and so are the
things that they refer to. -/
structure View.Alike (v v' : View) (within : Int → Prop) : Prop where
  /-- The frames are the same. -/
  agree : Reel.Agree v.reel v'.reel within
  /-- Their sprites are named alike. -/
  spriteName_eq : ∀ id f, within id → v.reel.shown? id = some id → v.reel.frame? id = some f →
    v'.session.spriteName f.sprite = v.session.spriteName f.sprite
  /-- What they refer to is named alike. -/
  referred?_eq : ∀ id f, within id → v.reel.shown? id = some id → v.reel.frame? id = some f →
    v'.referred? (f.arg 0) = v.referred? (f.arg 0) ∧ v'.referred? f.misc1 = v.referred? f.misc1

namespace View.Alike

variable {v v' : View} {within : Int → Prop}

/-- A frame that can be shown is the same in both views. -/
theorem frame?_eq (halike : v.Alike v' within) {id : Int} (hid : within id) (hshown : v.reel.shown? id = some id) :
    v'.reel.frame? id = v.reel.frame? id :=
  halike.agree.frame?_eq id hid ((v.reel.shown?_eq_some_iff).1 hshown).2.1

/-- The chains inside the set are the same. -/
theorem chain_eq (halike : v.Alike v' within) {start : Int} (hstart : within start) :
    v'.reel.chain start = v.reel.chain start := halike.agree.chain_eq hstart

/-- The frames of a chain inside the set are inside, and can be shown. -/
theorem of_mem_chain (halike : v.Alike v' within) {start id : Int} (hstart : within start)
    (hmem : id ∈ v.reel.chain start) : within id ∧ v.reel.shown? id = some id := by
  have hexists := Reel.of_mem_chain hmem
  exact ⟨halike.agree.within_of_mem_chain hstart hmem, (v.reel.shown?_eq_some_iff).2 ⟨rfl, hexists⟩⟩

/-- What is said of the frames of a chain one by one is the same in both views. -/
theorem map_chain_eq {α : Type} (halike : v.Alike v' within) {start : Int} (hstart : within start) {say say' : Int → α}
    (hsay : ∀ id, within id → v.reel.shown? id = some id → say' id = say id) :
    (v'.reel.chain start).map say' = (v.reel.chain start).map say := by
  rw [halike.chain_eq hstart]
  refine List.map_congr_left fun id hmem => ?_
  obtain ⟨hid, hshown⟩ := halike.of_mem_chain hstart hmem
  exact hsay id hid hshown

/-- The code pointers of frames do the same. -/
theorem flags_eq (halike : v.Alike v' within) {id : Int} (hid : within id) (hshown : v.reel.shown? id = some id) :
    v'.reel.flags id = v.reel.flags id := by
  unfold Reel.flags Reel.pointer?
  rw [halike.frame?_eq hid hshown]

theorem chainFlags_eq (halike : v.Alike v' within) {start : Int} (hstart : within start) :
    v'.reel.chainFlags start = v.reel.chainFlags start := by
  have hflags : (v'.reel.chain start).map v'.reel.flags = (v.reel.chain start).map v.reel.flags :=
    halike.map_chain_eq hstart fun id hid hshown => halike.flags_eq hid hshown
  -- The fold reads each frame as it goes; its result is that of the mapped words.
  have hfold : ∀ r : Reel, r.chainFlags start = ((r.chain start).map r.flags).foldl (· ||| ·) 0 :=
    fun r => List.foldl_map.symm
  rw [hfold, hfold, hflags]

end View.Alike

/-! ### Animations -/

/-- What a frame does depends on the view only through the things it refers to. -/
theorem Action.ofFrame_congr {v v' : View} {f : Frame} (harg : v'.referred? (f.arg 0) = v.referred? (f.arg 0))
    (hmisc : v'.referred? f.misc1 = v.referred? f.misc1) (owner : String) (id : Int) :
    Action.ofFrame v' owner id f = Action.ofFrame v owner id f := by
  unfold Action.ofFrame
  rw [harg, hmisc]

/-- The state lists and scratch attacks of an animation depend only on the frames in it. -/
theorem Storyboard.ofAnimation_congr {v v' : View} {act act' : Int → Frame → Action} {groups : Animation}
    (hframes : ∀ g ∈ groups, ∀ id ∈ g.frames, ∃ f, v.reel.frame? id = some f ∧ v'.reel.frame? id = some f ∧
      v'.session.spriteName f.sprite = v.session.spriteName f.sprite ∧ act' id f = act id f) :
    Storyboard.ofAnimation v' act' groups = Storyboard.ofAnimation v act groups := by
  have hframe : ∀ g ∈ groups,
      g.frames.map (Display.frame ⟨v'.session.spriteName, fun id f => (act' id f).text⟩ v'.reel) =
        g.frames.map (Display.frame ⟨v.session.spriteName, fun id f => (act id f).text⟩ v.reel) := by
    refine fun g hg => List.map_congr_left fun id hid => ?_
    obtain ⟨f, hf, hf', hsprite, hact⟩ := hframes g hg id hid
    simp only [Display.frame, hf, hf', Option.getD_some, hsprite, hact]
  have hstates : ∀ role,
      Display.states? ⟨v'.session.spriteName, fun id f => (act' id f).text⟩ v'.reel groups role =
        Display.states? ⟨v.session.spriteName, fun id f => (act id f).text⟩ v.reel groups role := by
    intro role
    unfold Display.states?
    cases hgroup : groups.group? role with
    | none => rfl
    | some g =>
        have hg : g ∈ groups := List.mem_of_find?_eq_some hgroup
        simp only [Display.entries, hframe g hg]
  have hscratches : ∀ g ∈ groups,
      g.frames.filterMap (fun id => (act' id ((v'.reel.frame? id).getD {})).scratch?) =
        g.frames.filterMap fun id => (act id ((v.reel.frame? id).getD {})).scratch? := by
    refine fun g hg => List.filterMap_congr fun id hid => ?_
    obtain ⟨f, hf, hf', -, hact⟩ := hframes g hg id hid
    rw [hf, hf', Option.getD_some, hact]
  -- The lists are written role by role, the scratch attacks are collected group by group.
  unfold Storyboard.ofAnimation Display.allStates
  rw [List.flatMap_congr hscratches]
  simp only [hstates]

/-- Animations that start inside a set on which two views agree are shown alike, if frames act alike. -/
theorem View.Alike.storyboard_eq {v v' : View} {within : Int → Prop} (halike : v.Alike v' within)
    {starts : List (Role × Int)} (hstarts : ∀ e ∈ starts, within e.2) {act act' : Int → Frame → Action}
    (hact : ∀ id f, within id → v.reel.shown? id = some id → v.reel.frame? id = some f → act' id f = act id f) :
    Storyboard.ofAnimation v' act' (Animation.build v'.reel starts) =
      Storyboard.ofAnimation v act (Animation.build v.reel starts) := by
  rw [Animation.build_congr halike.agree hstarts]
  apply Storyboard.ofAnimation_congr
  intro g hg id hid
  obtain ⟨hwithin, hshown⟩ := Animation.within_of_mem_build halike.agree hstarts hg hid
  obtain ⟨f, hf⟩ := Option.isSome_iff_exists.1 ((v.reel.shown?_eq_some_iff).1 hshown).2.2
  exact ⟨f, hf, (halike.frame?_eq hwithin hshown).trans hf, halike.spriteName_eq id f hwithin hshown hf,
    hact id f hwithin hshown hf⟩

/-! ### Weapons -/

namespace WeaponDefinition

variable {v v' : View} {within : Int → Prop} {w : Weapon}

theorem frameAttack?_congr {f : Frame} (harg : v'.referred? (f.arg 0) = v.referred? (f.arg 0)) :
    frameAttack? v' f = frameAttack? v f := by
  unfold frameAttack?
  rw [harg]

/-- Views that agree on the firing frames know the same attacks. -/
theorem attacks_eq (halike : v.Alike v' within) (hattack : within w.attack) (hflash : within w.flash) :
    attacks v' w = attacks v w := by
  have hfired : ∀ start, within start →
      (v'.reel.chain start).filterMap (fun id => (v'.reel.frame? id).bind (frameAttack? v')) =
        (v.reel.chain start).filterMap fun id => (v.reel.frame? id).bind (frameAttack? v) := by
    intro start hstart
    rw [halike.chain_eq hstart]
    refine List.filterMap_congr fun id hmem => ?_
    obtain ⟨hid, hshown⟩ := halike.of_mem_chain hstart hmem
    rw [halike.frame?_eq hid hshown]
    cases hf : v.reel.frame? id with
    | none => rfl
    | some f => exact frameAttack?_congr (halike.referred?_eq id f hid hshown hf).1
  unfold attacks
  simp only [hfired w.attack hattack, hfired w.flash hflash]

theorem slots_eq (halike : v.Alike v' within) (hstarts : ∀ role ∈ Role.ofWeapon, within (w.start role)) :
    slots v' w = slots v w := by
  unfold slots
  rw [attacks_eq halike (hstarts .attack (by decide)) (hstarts .flash (by decide))]

/-- Views that agree on all frames of a weapon show it alike. -/
theorem storyboard_eq (halike : v.Alike v' within) (hstarts : ∀ role ∈ Role.ofWeapon, within (w.start role)) :
    storyboard v' w = storyboard v w := by
  refine halike.storyboard_eq ?_ ?_
  · intro e hmem
    obtain ⟨role, hrole, rfl⟩ := List.mem_map.1 hmem
    exact hstarts role hrole
  · intro id f hid hshown hf
    obtain ⟨harg, hmisc⟩ := halike.referred?_eq id f hid hshown hf
    unfold action
    rw [frameAttack?_congr harg, slots_eq halike hstarts, Action.ofFrame_congr harg hmisc]

/-- The definitions are the same if ammunition is named alike besides. -/
theorem block_eq (halike : v.Alike v' within) (hstarts : ∀ role ∈ Role.ofWeapon, within (w.start role))
    (hammo : v'.ammoName w.ammo = v.ammoName w.ammo) (b : Storyboard) : block v' w b = block v w b := by
  have hclauses : ∀ mark, ammoClauses v' w mark = ammoClauses v w mark := by
    intro mark
    unfold ammoClauses
    rw [hammo]
  have hslot : slotClauses v' w = slotClauses v w := by
    funext e
    unfold slotClauses
    rw [hclauses]
  unfold block attackClauses
  rw [slots_eq halike hstarts, hclauses, hslot]

end WeaponDefinition

/-! ### Things -/

section Thing

variable {v v' : View} {within : Int → Prop} {t : Thing}

/-- Views that agree on all frames of a thing walk the same chains. -/
theorem thingChains_eq (halike : v.Alike v' within) (hstarts : ∀ role ∈ Role.ofThing, within (t.start role)) :
    v'.session.thingChains t = v.session.thingChains t :=
  List.flatMap_congr fun role hrole => halike.chain_eq (hstarts role hrole)

theorem of_mem_thingChains (halike : v.Alike v' within) (hstarts : ∀ role ∈ Role.ofThing, within (t.start role))
    {id : Int} (hmem : id ∈ v.session.thingChains t) : within id ∧ v.reel.shown? id = some id := by
  obtain ⟨role, hrole, hmem⟩ := List.mem_flatMap.1 hmem
  exact halike.of_mem_chain (hstarts role hrole) hmem

/-- Views that agree on all frames of a thing judge alike whether it is a monster. -/
theorem Special.isMonster_eq (halike : v.Alike v' within) (hstarts : ∀ role ∈ Role.ofThing, within (t.start role)) :
    Special.isMonster v' t = Special.isMonster v t := by
  have hsee : v'.reel.chainFlags t.see = v.reel.chainFlags t.see :=
    halike.chainFlags_eq (hstarts .see (by decide))
  have hdeath : v'.reel.chainFlags t.death = v.reel.chainFlags t.death :=
    halike.chainFlags_eq (hstarts .death (by decide))
  have hxdeath : v'.reel.chainFlags t.xdeath = v.reel.chainFlags t.xdeath :=
    halike.chainFlags_eq (hstarts .xdeath (by decide))
  unfold Special.isMonster Monster.conduct
  rw [hsee, hdeath, hxdeath]

/-- Views that agree on the first frame of a pickup take it for the same one. -/
theorem Pickup.ofThing?_eq (halike : v.Alike v' within)
    (hspawn : t.has ThingFlag.special = true → within t.spawn ∧ t.spawn ≠ 0) :
    Pickup.ofThing? v' t = Pickup.ofThing? v t := by
  unfold Pickup.ofThing?
  by_cases hspecial : t.has ThingFlag.special = true
  · obtain ⟨hwithin, hne⟩ := hspawn hspecial
    rw [if_pos hspecial, if_pos hspecial, halike.agree.frame?_eq t.spawn hwithin hne]
  · rw [if_neg hspecial, if_neg hspecial]

namespace ThingDefinition

/-- Animations that start inside a set on which two views agree are shown alike. -/
theorem storyboard_eq (halike : v.Alike v' within) {starts : List (Role × Int)} (hstarts : ∀ e ∈ starts, within e.2)
    (owner : String) : storyboard v' owner starts = storyboard v owner starts := by
  refine halike.storyboard_eq hstarts fun id f hid hshown hf => ?_
  obtain ⟨harg, hmisc⟩ := halike.referred?_eq id f hid hshown hf
  exact Action.ofFrame_congr harg hmisc owner id

theorem frameAttacks_eq (halike : v.Alike v' within) {id : Int} (hid : within id)
    (hshown : v.reel.shown? id = some id) (owner : String) :
    frameAttacks v' owner id = frameAttacks v owner id := by
  obtain ⟨f, hf⟩ := Option.isSome_iff_exists.1 ((v.reel.shown?_eq_some_iff).1 hshown).2.2
  unfold frameAttacks
  rw [halike.frame?_eq hid hshown, hf, Option.getD_some]
  dsimp only
  rw [(halike.referred?_eq id f hid hshown hf).1]

/-- Views that agree on all frames of a thing know the same attacks. -/
theorem attacks_eq (halike : v.Alike v' within) (hstarts : ∀ role ∈ Role.ofThing, within (t.start role)) :
    attacks v' t = attacks v t := by
  have hfired : ∀ start, within start →
      (v'.reel.chain start).map (frameAttacks v' t.ddfName) = (v.reel.chain start).map (frameAttacks v t.ddfName) :=
    fun start hstart => halike.map_chain_eq hstart fun id hid hshown => frameAttacks_eq halike hid hshown t.ddfName
  unfold attacks
  simp only [hfired t.melee (hstarts .melee (by decide)), hfired t.missile (hstarts .missile (by decide)),
    hfired t.death (hstarts .death (by decide)), hfired t.xdeath (hstarts .xdeath (by decide))]

theorem blast_eq (halike : v.Alike v' within) {id : Int} (hid : within id) (hshown : v.reel.shown? id = some id) :
    blast v' id = blast v id := by
  unfold blast
  rw [halike.frame?_eq hid hshown]

/-- Views that agree on all frames of a thing see the same explosions. -/
theorem explosion?_eq (halike : v.Alike v' within) (hstarts : ∀ role ∈ Role.ofThing, within (t.start role)) :
    explosion? v' t = explosion? v t := by
  have hflags : ∀ id ∈ v.session.thingChains t, v'.reel.flags id = v.reel.flags id := by
    intro id hmem
    obtain ⟨hid, hshown⟩ := of_mem_thingChains halike hstarts hmem
    exact halike.flags_eq hid hshown
  have hany : ((v.session.thingChains t).any fun id => Word.hasAll (v'.reel.flags id) Behaviour.detonate) =
      (v.session.thingChains t).any fun id => Word.hasAll (v.reel.flags id) Behaviour.detonate := by
    rw [Bool.eq_iff_iff, List.any_eq_true, List.any_eq_true]
    refine exists_congr fun id => and_congr_right fun hmem => ?_
    rw [hflags id hmem]
  have hfind : ((v.session.thingChains t).find? fun id => Word.hasAll (v'.reel.flags id) Behaviour.explode) =
      (v.session.thingChains t).find? fun id => Word.hasAll (v.reel.flags id) Behaviour.explode :=
    List.find?_congr fun id hmem => by rw [hflags id hmem]
  unfold explosion?
  dsimp only
  rw [thingChains_eq halike hstarts, hany, hfind]
  split
  · rfl
  · cases hfound : (v.session.thingChains t).find? fun id => Word.hasAll (v.reel.flags id) Behaviour.explode with
    | none => rfl
    | some id =>
        obtain ⟨hid, hshown⟩ := of_mem_thingChains halike hstarts (List.mem_of_find?_eq_some hfound)
        rw [Option.map_some, Option.map_some, blast_eq halike hid hshown]

end ThingDefinition

/-- Views that agree on all frames of a projectile define it alike. -/
theorem AttackDefinition.block_eq (halike : v.Alike v' within) (hdeath : within t.death) (e : AttackEntry)
    (deathSound : Int) (b : Storyboard) :
    AttackDefinition.block v' e t deathSound b = AttackDefinition.block v e t deathSound b := by
  have hflags : (v'.reel.chain t.death).map v'.reel.flags = (v.reel.chain t.death).map v.reel.flags :=
    halike.map_chain_eq hdeath fun id hid hshown => halike.flags_eq hid hshown
  have hexplodes : ∀ u : View, AttackDefinition.explodes u t =
      ((u.reel.chain t.death).map u.reel.flags).any fun word => Word.hasAll word Behaviour.explode := by
    intro u
    rw [List.any_map]
    rfl
  unfold AttackDefinition.block AttackDefinition.clauses
  rw [hexplodes, hexplodes, hflags]

end Thing
end DoomPatch
