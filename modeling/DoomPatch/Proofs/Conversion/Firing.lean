import Mathlib.Data.List.Perm.Subperm
import DoomPatch.Proofs.Conversion.Arming
import DoomPatch.Proofs.Conversion.Journal
import DoomPatch.Proofs.Definition.Special

/-!
# Weapons fire the attacks that their slots name

The slots of a weapon are given out by a walk over its attack and flash chains, and the actions of its frames are
written by another walk, over the groups of all five roles.  The two agree on every attack that the first walk meets,
as long as there are slots enough: the frame is written with the shooting action of the slot whose clause names the
attack.  The walk for the slots never looks at the other three chains, so a frame there that fires an attack of its
own is written with the main shooting action.

* `WeaponDefinition.Fires` — a chain of a weapon has a frame that fires an attack.
* `WeaponDefinition.mem_attacks_iff` — the attacks with slots are those of the attack and flash chains.
* `WeaponDefinition.attackClause_mem_block_iff` — the clauses of a definition that name attacks are those of the slots.
* `WeaponDefinition.Animates` — the state lists of a definition are those of groups whose frames act in a given way.
* `convertWeapon_fires` — what every frame of a weapon is written with.
-/

namespace DoomPatch

namespace AttackSlot

theorem mark_inj {slot slot' : AttackSlot} (h : slot.mark = slot'.mark) : slot = slot' := by
  revert h
  cases slot <;> cases slot' <;> decide

theorem shoot_inj {slot slot' : AttackSlot} (h : slot.shoot = slot'.shoot) : slot = slot' :=
  mark_inj (String.append_left_inj _ |>.1 h)

theorem nodup_all : all.Nodup := by decide

end AttackSlot

namespace WeaponDefinition

variable {v : View} {w : Weapon}

/-! ### Attacks and slots -/

/-- The attack that a frame with a number fires, if any. -/
def fired? (v : View) (id : Int) : Option String := (v.reel.frame? id).bind (frameAttack? v)

/-- A frame in the chain of one of the roles fires an attack. -/
def Fires (v : View) (w : Weapon) (roles : List Role) (name : String) : Prop :=
  ∃ role ∈ roles, ∃ id ∈ v.reel.chain (w.start role), fired? v id = some name

/-- Whether the chains of the roles fire no other attacks than those named. -/
def firesOnly (v : View) (w : Weapon) (roles : List Role) (names : List String) : Bool :=
  roles.all fun role => (v.reel.chain (w.start role)).all fun id => (fired? v id).all names.contains

theorem mem_of_fires {roles : List Role} {names : List String} (honly : firesOnly v w roles names = true)
    {name : String} (hfires : Fires v w roles name) : name ∈ names := by
  obtain ⟨role, hrole, id, hid, hfired⟩ := hfires
  have hall := List.all_eq_true.1 (List.all_eq_true.1 honly role hrole) id hid
  simpa [hfired] using hall

/-- The names fired in the attack and flash chains, with repetitions. -/
theorem attacks_eq_take (v : View) (w : Weapon) :
    ∃ names : List String, attacks v w = (Special.distinct names).take 4 ∧
      ∀ name, name ∈ names ↔ Fires v w [.attack, .flash] name := by
  refine ⟨_, rfl, fun name => ?_⟩
  simp only [List.mem_append, List.mem_filterMap]
  constructor
  · rintro (⟨id, hid, hfired⟩ | ⟨id, hid, hfired⟩)
    · exact ⟨.attack, by simp, id, hid, hfired⟩
    · exact ⟨.flash, by simp, id, hid, hfired⟩
  · rintro ⟨role, hrole, id, hid, hfired⟩
    rcases List.mem_pair.1 hrole with rfl | rfl
    · exact .inl ⟨id, hid, hfired⟩
    · exact .inr ⟨id, hid, hfired⟩

theorem fires_of_mem_attacks {name : String} (hname : name ∈ attacks v w) : Fires v w [.attack, .flash] name := by
  obtain ⟨names, heq, hnames⟩ := attacks_eq_take v w
  rw [heq] at hname
  exact (hnames name).1 ((Special.mem_distinct names name).1 (List.mem_of_mem_take hname))

/-- If the attack and flash chains fire no more attacks than there are slots, all of them have one. -/
theorem mem_attacks_iff
    (hfew : ∃ names : List String, names.length ≤ 4 ∧ ∀ name, Fires v w [.attack, .flash] name → name ∈ names)
    (name : String) : name ∈ attacks v w ↔ Fires v w [.attack, .flash] name := by
  refine ⟨fires_of_mem_attacks, fun hfires => ?_⟩
  obtain ⟨fired, heq, hfired⟩ := attacks_eq_take v w
  obtain ⟨names, hlength, hnames⟩ := hfew
  have hsubset : Special.distinct fired ⊆ names :=
    fun other hother => hnames other ((hfired other).1 ((Special.mem_distinct fired other).1 hother))
  have hshort : (Special.distinct fired).length ≤ 4 :=
    (((Special.nodup_distinct fired).subperm hsubset).length_le).trans hlength
  rw [heq, List.take_of_length_le hshort, Special.mem_distinct]
  exact (hfired name).2 hfires

theorem length_attacks_le (v : View) (w : Weapon) : (attacks v w).length ≤ AttackSlot.all.length :=
  List.length_take_le _ _

/-- Every attack in the list has a slot. -/
theorem exists_slot_of_mem_attacks {name : String} (hname : name ∈ attacks v w) : ∃ slot, (slot, name) ∈ slots v w := by
  have hsnd : (slots v w).map Prod.snd = attacks v w := List.map_snd_zip (length_attacks_le v w)
  rw [← hsnd] at hname
  obtain ⟨⟨slot, name⟩, hmem, rfl⟩ := List.mem_map.1 hname
  exact ⟨slot, hmem⟩

theorem mem_attacks_of_mem_slots {slot : AttackSlot} {name : String} (hmem : (slot, name) ∈ slots v w) :
    name ∈ attacks v w := (List.of_mem_zip hmem).2

/-- A slot has one attack at most. -/
theorem eq_of_mem_slots {slot : AttackSlot} {name name' : String} (hmem : (slot, name) ∈ slots v w)
    (hmem' : (slot, name') ∈ slots v w) : name = name' := by
  obtain ⟨i, hi⟩ := List.mem_iff_getElem?.1 hmem
  obtain ⟨j, hj⟩ := List.mem_iff_getElem?.1 hmem'
  obtain ⟨hslot, hname⟩ := List.getElem?_zip_eq_some.1 hi
  obtain ⟨hslot', hname'⟩ := List.getElem?_zip_eq_some.1 hj
  obtain rfl : i = j :=
    (List.getElem?_inj (List.getElem?_eq_some_iff.1 hslot).1 AttackSlot.nodup_all).1 (hslot.trans hslot'.symm)
  exact Option.some.inj (hname.symm.trans hname')

/-! ### Clauses -/

/-- The clauses that name attacks are those of the slots. -/
theorem attackClause_mem_block_iff (v : View) (w : Weapon) {b : Storyboard}
    (hstates : ∀ c ∈ b.states, quietKey c.key = false) (slot : AttackSlot) (name : String) :
    ⟨slot.mark ++ "ATTACK", name⟩ ∈ (block v w b).clauses ↔ (slot, name) ∈ slots v w := by
  have hkeys : ∀ slot' : AttackSlot, slot.mark ++ "ATTACK" ≠ slot'.mark ++ "AMMOTYPE" ∧
      slot.mark ++ "ATTACK" ≠ slot'.mark ++ "AMMOPERSHOT" := by
    intro slot'
    cases slot <;> cases slot' <;> decide
  have hquiet : quietKey (slot.mark ++ "ATTACK") = true := by cases slot <;> decide
  have hother : slot.mark ++ "ATTACK" ≠ "BINDKEY" ∧ slot.mark ++ "ATTACK" ≠ "PRIORITY" ∧
      slot.mark ++ "ATTACK" ≠ "SPECIAL" := by cases slot <;> decide
  have hammo : ∀ slot' : AttackSlot, (⟨slot.mark ++ "ATTACK", name⟩ : Clause) ∉ ammoClauses v w slot'.mark := by
    intro slot' hc
    simp [ammoClauses, hkeys slot'] at hc
  have hslots : (⟨slot.mark ++ "ATTACK", name⟩ : Clause) ∈ attackClauses v w ↔ (slot, name) ∈ slots v w := by
    unfold attackClauses
    split
    · next hempty =>
      rw [List.isEmpty_iff.1 hempty]
      exact iff_of_false (hammo .first) List.not_mem_nil
    · rw [List.mem_flatMap]
      constructor
      · rintro ⟨⟨slot', name'⟩, hmem, hc⟩
        rcases List.mem_append.1 hc with hc | hc
        · exact absurd hc (hammo slot')
        · rw [List.mem_singleton, Clause.mk.injEq, String.append_left_inj] at hc
          obtain rfl : slot = slot' := AttackSlot.mark_inj hc.1
          rw [hc.2]
          exact hmem
      · intro hmem
        exact ⟨(slot, name), hmem, List.mem_append_right _ (List.mem_singleton.2 rfl)⟩
  have hspecial : ∀ items, (⟨slot.mark ++ "ATTACK", name⟩ : Clause) ∉ Definition.listClause "SPECIAL" items := by
    intro items hc
    unfold Definition.listClause at hc
    split at hc <;> simp [hother] at hc
  have hrest : (⟨slot.mark ++ "ATTACK", name⟩ : Clause) ∉ (if b.states.isEmpty then [invisible] else b.states) := by
    split
    · rw [List.mem_singleton]
      intro hc
      have hkey := congrArg (fun c => quietKey c.key) hc
      rw [hquiet] at hkey
      exact absurd hkey (by decide)
    · intro hc
      rw [hstates _ hc] at hquiet
      cases hquiet
  unfold block
  dsimp only
  rw [List.mem_append, List.mem_append, List.mem_append, hslots]
  constructor
  · rintro (((hmem | hc) | hc) | hc)
    · exact hmem
    · simp [hother] at hc
    · exact absurd hc (hspecial _)
    · exact absurd hc hrest
  · exact fun hmem => .inl (.inl (.inl hmem))

/-- How a frame that acts in a given way is written down: its sprite, picture, duration and light, and what it does. -/
def entry (v : View) (act : Int → String) (id : Int) : String :=
  let f := (v.reel.frame? id).getD {}
  v.session.spriteName f.sprite ++ ":" ++ (Display.letter f.subSprite).toString ++ ":" ++ toString f.tics ++ ":" ++
    (if f.bright then "BRIGHT" else "NORMAL") ++ ":" ++ act id

theorem frame_eq_entry (v : View) (act : Int → String) (id : Int) :
    Display.frame ⟨v.session.spriteName, fun id _ => act id⟩ v.reel id = entry v act id := by
  unfold Display.frame entry
  dsimp only
  split <;> simp [toString, String.append_assoc]

/-- The state list of a group whose frames act in a given way: the frames, and the jump unless the group loops. -/
def stateList (v : View) (act : Int → String) (g : Group) : Clause :=
  ⟨"STATES(" ++ g.role.tag ++ ")",
    ",\n    ".intercalate (g.frames.map (entry v act) ++ if g.jump = .loop then [] else [g.jump.text])⟩

/-- The state lists of a definition are those of groups whose frames act in a given way; without any, it says that
nothing is seen. -/
structure Animates (b : Block) (v : View) (groups : Animation) (act : Int → String) : Prop where
  shown : ∀ g ∈ groups, g.frames ≠ [] → stateList v act g ∈ b.clauses
  only : ∀ c ∈ b.clauses, "STATES(".toList <+: c.key.toList → c = invisible ∨ ∃ g ∈ groups, c = stateList v act g

/-- The groups of a weapon. -/
def groups (v : View) (w : Weapon) : Animation :=
  Animation.build v.reel (Role.ofWeapon.map fun role => (role, w.start role))

/-- What a frame of a weapon is written with. -/
def acts (v : View) (w : Weapon) (id : Int) : String := (action v w id ((v.reel.frame? id).getD {})).text

theorem nodup_starts (w : Weapon) : ((Role.ofWeapon.map fun role => (role, w.start role)).map Prod.fst).Nodup := by
  rw [List.map_map]
  exact (by decide : (Role.ofWeapon.map id).Nodup)

theorem nodup_roles (v : View) (w : Weapon) : ((groups v w).map (·.role)).Nodup :=
  (nodup_starts w).sublist (Animation.sublist_map_role_build v.reel _)

/-- A group with frames has its state list, and every state list is that of a group. -/
theorem mem_states_iff (v : View) (w : Weapon) (c : Clause) :
    c ∈ (storyboard v w).states ↔
      ∃ g ∈ groups v w, ¬ (g.frames = [] ∧ g.jump = .loop) ∧ c = stateList v (acts v w) g := by
  let d : Display := ⟨v.session.spriteName, fun id f => (action v w id f).text⟩
  have hstates : ∀ {g : Group}, g ∈ groups v w → d.states? v.reel (groups v w) g.role =
      if g.frames.isEmpty && g.jump == .loop then none
      else some ((stateList v (acts v w) g).key, (stateList v (acts v w) g).value) := by
    intro g hg
    have hentries : d.entries v.reel g = (g.frames.map (entry v (acts v w)) ++
        if g.jump = .loop then [] else [g.jump.text]) := by
      have hframe : ∀ id ∈ g.frames, d.frame v.reel id = entry v (acts v w) id :=
        fun id _ => frame_eq_entry v (acts v w) id
      rw [Display.entries, List.map_congr_left hframe]
    unfold Display.states?
    rw [Animation.group?_of_mem (nodup_roles v w) hg]
    dsimp only
    rw [hentries]
    simp [stateList, toString]
  have hmem : c ∈ (storyboard v w).states ↔ ∃ e ∈ d.allStates v.reel (groups v w), (⟨e.1, e.2⟩ : Clause) = c :=
    List.mem_map
  rw [hmem]
  unfold Display.allStates
  constructor
  · rintro ⟨e, he, rfl⟩
    obtain ⟨g, hg, he⟩ := List.mem_filterMap.1 he
    rw [hstates hg] at he
    split at he
    · cases he
    · next hloop =>
      cases he
      exact ⟨g, hg, by simpa using hloop, rfl⟩
  · rintro ⟨g, hg, hloop, rfl⟩
    refine ⟨((stateList v (acts v w) g).key, (stateList v (acts v w) g).value), List.mem_filterMap.2 ⟨g, hg, ?_⟩, rfl⟩
    rw [hstates hg, if_neg (by simpa using hloop)]

theorem quietKey_stateList (act : Int → String) (g : Group) : quietKey (stateList v act g).key = false := by
  have hkey : "STATES(".toList <+: (stateList v act g).key.toList := by simp [stateList]
  unfold quietKey
  rw [List.isPrefixOf_iff_prefix.2 hkey, Bool.not_true, Bool.and_false]

theorem quietKey_of_mem_states (v : View) (w : Weapon) : ∀ c ∈ (storyboard v w).states, quietKey c.key = false := by
  intro c hc
  obtain ⟨g, -, -, rfl⟩ := (mem_states_iff v w c).1 hc
  exact quietKey_stateList (acts v w) g

/-- The frames of the groups exist. -/
theorem isSome_of_mem_groups {g : Group} (hg : g ∈ groups v w) {id : Int} (hid : id ∈ g.frames) :
    (v.reel.frame? id).isSome := by
  obtain ⟨-, -, stop, hpath, -⟩ := Animation.laid_of_mem_build v.reel _ g hg
  exact ((v.reel.shown?_eq_some_iff).1 (hpath.shown?_of_mem hid)).2.2

/-- The groups show the frames of all chains. -/
theorem exists_group_of_mem_chain {role : Role} (hrole : role ∈ Role.ofWeapon) {id : Int}
    (hid : id ∈ v.reel.chain (w.start role)) : ∃ g ∈ groups v w, id ∈ g.frames :=
  Animation.exists_group_of_mem_chain (nodup_starts w) (List.mem_map.2 ⟨role, hrole, rfl⟩) hid

theorem animates_block (v : View) (w : Weapon) :
    Animates (block v w (storyboard v w)) v (groups v w) (acts v w) where
  shown := by
    intro g hg hframes
    have hstate := (mem_states_iff v w _).2 ⟨g, hg, fun h => hframes h.1, rfl⟩
    refine List.mem_append_right _ ?_
    rw [if_neg fun hempty => List.ne_nil_of_mem hstate (List.isEmpty_iff.1 hempty)]
    exact hstate
  only := by
    intro c hc hkey
    have hstates : ∀ {cs : List Clause}, Quiets cs → c ∉ cs := by
      intro cs hquiet hmem
      have hquiet := hquiet c hmem
      rw [quietKey, List.isPrefixOf_iff_prefix.2 hkey] at hquiet
      simp at hquiet
    unfold block at hc
    dsimp only at hc
    rw [List.mem_append] at hc
    rcases hc with hc | hc
    · refine absurd hc (hstates ?_)
      rw [quiets_append, quiets_append]
      exact ⟨⟨Draft.quiets_weapon w, by simp (disch := decide) only [quiets_cons, quiets_nil]⟩,
        quiets_listClause (by decide)⟩
    · split at hc
      · exact .inl (List.mem_singleton.1 hc)
      · obtain ⟨g, hg, -, rfl⟩ := (mem_states_iff v w c).1 hc
        exact .inr ⟨g, hg, rfl⟩

/-! ### Actions -/

set_option maxRecDepth 4000 in
/-- The catalog has no shooting action of a later slot. -/
theorem ddf_ne_shoot {p : CodePointer} (hp : p ∈ CodePointer.catalog) {slot : AttackSlot} (hslot : slot ≠ .first) :
    p.ddf ≠ slot.shoot := by
  have hall : ∀ p ∈ CodePointer.catalog, p.ddf ≠ "SEC_SHOOT" ∧ p.ddf ≠ "3RD_SHOOT" ∧ p.ddf ≠ "4TH_SHOOT" := by decide
  cases slot with
  | first => exact absurd rfl hslot
  | second => exact (hall p hp).1
  | third => exact (hall p hp).2.1
  | fourth => exact (hall p hp).2.2

/-- Actions with a target have brackets, and shooting actions have none. -/
theorem call_ne_shoot {opening : String} (hopening : '(' ∈ opening.toList) (target : String) (slot : AttackSlot) :
    opening ++ target ++ ")" ≠ slot.shoot := by
  have hbare : '(' ∉ slot.shoot.toList := by cases slot <;> decide
  intro heq
  rw [← heq, String.toList_append, String.toList_append] at hbare
  exact hbare (List.mem_append_left _ (List.mem_append_left _ hopening))

/-- The actions of frames that fire nothing are no shooting actions of later slots. -/
theorem text_ofFrame_ne_shoot (owner : String) (id : Int) (f : Frame) {slot : AttackSlot} (hslot : slot ≠ .first) :
    (Action.ofFrame v owner id f).text ≠ slot.shoot := by
  have hscratch : ∀ s, (Action.scratch s).text ≠ slot.shoot :=
    fun s => show "CLOSE_ATTACK(" ++ s.name ++ ")" ≠ slot.shoot from call_ne_shoot (by decide) s.name slot
  have hrange : ∀ name, (Action.range name).text ≠ slot.shoot :=
    fun name => show "RANGE_ATTACK(" ++ name ++ ")" ≠ slot.shoot from call_ne_shoot (by decide) name slot
  have hspawn : ∀ name, (Action.spawn name).text ≠ slot.shoot :=
    fun name => show "SPAWN(" ++ name ++ ")" ≠ slot.shoot from call_ne_shoot (by decide) name slot
  have hsound : ∀ ref, (Action.sound ref).text ≠ slot.shoot :=
    fun ref => show "PLAYSOUND(" ++ ref ++ ")" ≠ slot.shoot from call_ne_shoot (by decide) ref slot
  have hreferred : ∀ {make : String → Action} (hmake : ∀ name, (make name).text ≠ slot.shoot) {other : Action}
      (hother : other.text ≠ slot.shoot) (number : Int),
      (((v.referred? number).map make).getD other).text ≠ slot.shoot := by
    intro make hmake other hother number
    cases v.referred? number with
    | none => exact hother
    | some name => exact hmake name
  unfold Action.ofFrame
  cases hp : CodePointer.ofAction? f.action with
  | none =>
      have hnothing : (Action.plain "NOTHING").text ≠ slot.shoot := by cases slot <;> decide
      exact hnothing
  | some p =>
      have hplain : (Action.plain p.ddf).text ≠ slot.shoot :=
        ddf_ne_shoot (CodePointer.mem_catalog_of_ofAction? hp) hslot
      dsimp only
      split
      · exact hscratch _
      · exact hscratch _
      · exact hreferred hrange hplain _
      · exact hreferred hspawn hplain _
      · exact hreferred hspawn hplain _
      · split
        · exact hsound _
        · exact hplain
      · exact hplain

theorem frameAttack?_of_fired? {id : Int} {name : String} (hfired : fired? v id = some name) :
    frameAttack? v ((v.reel.frame? id).getD {}) = some name := by
  obtain ⟨f, hframe, hattack⟩ := Option.bind_eq_some_iff.1 hfired
  rw [hframe]
  exact hattack

theorem acts_of_fired? {id : Int} {name : String} (hfired : fired? v id = some name) :
    acts v w id = (((slots v w).find? (·.2 == name)).map (·.1.shoot)).getD AttackSlot.first.shoot := by
  unfold acts action
  rw [frameAttack?_of_fired? hfired]
  rfl

/-- A frame that fires an attack with a slot is written with the shooting action of a slot of the attack. -/
theorem acts_of_mem_attacks {id : Int} {name : String} (hfired : fired? v id = some name)
    (hname : name ∈ attacks v w) : ∃ slot, (slot, name) ∈ slots v w ∧ acts v w id = slot.shoot := by
  obtain ⟨slot, hslot⟩ := exists_slot_of_mem_attacks hname
  rw [acts_of_fired? hfired]
  cases hfind : (slots v w).find? (·.2 == name) with
  | none => exact absurd (List.find?_eq_none.1 hfind _ hslot) (by simp)
  | some e =>
      obtain ⟨slot', name'⟩ := e
      obtain rfl : name' = name := by simpa using List.find?_some hfind
      exact ⟨slot', List.mem_of_find?_eq_some hfind, rfl⟩

/-- A frame that fires an attack without a slot is written with the main shooting action. -/
theorem acts_of_not_mem_attacks {id : Int} {name : String} (hfired : fired? v id = some name)
    (hname : name ∉ attacks v w) : acts v w id = AttackSlot.first.shoot := by
  have hfind : (slots v w).find? (·.2 == name) = none := by
    rw [List.find?_eq_none]
    rintro ⟨slot, name'⟩ hmem heq
    obtain rfl : name' = name := by simpa using heq
    exact hname (mem_attacks_of_mem_slots hmem)
  rw [acts_of_fired? hfired, hfind]
  rfl

/-- A shooting action of a later slot is written for frames that fire the attack of the slot only. -/
theorem fired?_of_acts {id : Int} (hid : (v.reel.frame? id).isSome) {slot : AttackSlot} (hslot : slot ≠ .first)
    (hacts : acts v w id = slot.shoot) : ∃ name, fired? v id = some name ∧ (slot, name) ∈ slots v w := by
  obtain ⟨f, hframe⟩ := Option.isSome_iff_exists.1 hid
  have hfired : fired? v id = frameAttack? v f := by
    unfold fired?
    rw [hframe]
    rfl
  cases hattack : frameAttack? v f with
  | none =>
      have hplain : acts v w id = (Action.ofFrame v w.name id f).text := by
        unfold acts action
        rw [hframe, Option.getD_some, hattack]
      exact absurd (hplain.symm.trans hacts) (text_ofFrame_ne_shoot w.name id f hslot)
  | some name =>
      rw [hattack] at hfired
      by_cases hname : name ∈ attacks v w
      · obtain ⟨slot', hmem, hshoot⟩ := acts_of_mem_attacks hfired hname
        obtain rfl : slot' = slot := AttackSlot.shoot_inj (hshoot.symm.trans hacts)
        exact ⟨name, hfired, hmem⟩
      · rw [acts_of_not_mem_attacks hfired hname] at hacts
        exact absurd (AttackSlot.shoot_inj hacts).symm hslot

end WeaponDefinition

open WeaponDefinition

/-- The definition of a weapon goes behind what the lump of weapons holds. -/
theorem Press.find?_convertWeapon (p : Press) (v : View) {id : Int} {w : Weapon}
    (hweapon : v.session.weapon? id = some w) :
    ∃ (q : Press) (d : Draft) (text : String), Draft.ofWeapon v id = .ok d ∧ d.block = block v w (storyboard v w) ∧
      p.convertWeapon v id = .ok q ∧ d.block.Spelled text ∧
      q.buffer.find? .weapons = some (p.buffer.contents .weapons ++ text) := by
  obtain ⟨d, hdraft, hkind, hblock, hattack⟩ : ∃ d, Draft.ofWeapon v id = .ok d ∧ d.kind = .weapons ∧
      d.block = block v w (storyboard v w) ∧ d.attack = none := by
    unfold Draft.ofWeapon
    rw [hweapon]
    exact ⟨_, rfl, rfl, rfl, rfl⟩
  obtain ⟨text, hspelled, hlump⟩ := p.find?_publish_plain hattack (by rw [hkind]; decide)
  rw [hkind] at hlump
  exact ⟨p.publish d, d, text, hdraft, hblock, by rw [convertWeapon, hdraft]; rfl, hspelled, hlump⟩

/-- Converting a weapon writes one definition, and its state lists show every frame of its chains.  Let the attack and
flash chains fire no more than four attacks.  A frame that fires an attack is written with the shooting action of a
slot whose clause names the attack, and no other, exactly if one of these two chains fires the attack; otherwise it is
written with the main shooting action.  No shooting action of a later slot is written without the clause of the slot. -/
theorem convertWeapon_fires {s : Session} {id : Int} {w : Weapon} (hweapon : s.weapon? id = some w)
    (hfew : ∃ names : List String, names.length ≤ 4 ∧
      ∀ name, Fires { session := s } w [.attack, .flash] name → name ∈ names) (p : Press) :
    let act := acts { session := s } w
    AttackSlot.all.map (fun slot => (slot.shoot, slot.mark ++ "ATTACK")) =
      [("SHOOT", "ATTACK"), ("SEC_SHOOT", "SEC_ATTACK"), ("3RD_SHOOT", "3RD_ATTACK"), ("4TH_SHOOT", "4TH_ATTACK")] ∧
    ∃ (q : Press) (d : Draft) (text : String),
      p.convertWeapon { session := s } id = .ok q ∧ Draft.ofWeapon { session := s } id = .ok d ∧
      d.block.Spelled text ∧ q.buffer.find? .weapons = some (p.buffer.contents .weapons ++ text) ∧
      Animates d.block { session := s } (groups { session := s } w) act ∧
      (∀ role ∈ Role.ofWeapon, ∀ i ∈ s.reel.chain (w.start role), ∃ g ∈ groups { session := s } w, i ∈ g.frames) ∧
      ∀ g ∈ groups { session := s } w, ∀ i ∈ g.frames,
        (∀ name, fired? { session := s } i = some name →
          ((∃ slot : AttackSlot, act i = slot.shoot ∧
              ∀ other, ⟨slot.mark ++ "ATTACK", other⟩ ∈ d.block.clauses ↔ other = name) ↔
            Fires { session := s } w [.attack, .flash] name) ∧
          (¬ Fires { session := s } w [.attack, .flash] name → act i = AttackSlot.first.shoot)) ∧
        ∀ slot : AttackSlot, slot ≠ .first → act i = slot.shoot →
          ∃ name, ⟨slot.mark ++ "ATTACK", name⟩ ∈ d.block.clauses := by
  intro act
  have hclause := attackClause_mem_block_iff { session := s } w (quietKey_of_mem_states { session := s } w)
  obtain ⟨q, d, text, hdraft, hblock, hconverted, hspelled, hlump⟩ := p.find?_convertWeapon { session := s } hweapon
  refine ⟨by decide, q, d, text, hconverted, hdraft, hspelled, hlump, ?_⟩
  rw [hblock]
  refine ⟨animates_block _ w, ?_, ?_⟩
  · exact fun role hrole i hi => exists_group_of_mem_chain hrole hi
  · intro g hg i hi
    refine ⟨fun name hfired => ⟨⟨?_, ?_⟩, ?_⟩, ?_⟩
    · rintro ⟨slot, -, hslot⟩
      exact fires_of_mem_attacks (mem_attacks_of_mem_slots ((hclause slot name).1 ((hslot name).2 rfl)))
    · intro hfires
      obtain ⟨slot, hmem, hshoot⟩ := acts_of_mem_attacks hfired ((mem_attacks_iff hfew name).2 hfires)
      refine ⟨slot, hshoot, fun other => (hclause slot other).trans ⟨fun hother => eq_of_mem_slots hother hmem, ?_⟩⟩
      rintro rfl
      exact hmem
    · intro hfires
      exact acts_of_not_mem_attacks hfired fun hname => hfires (fires_of_mem_attacks hname)
    · intro slot hslot hshoot
      obtain ⟨name, -, hmem⟩ := fired?_of_acts (isSome_of_mem_groups hg hi) hslot hshoot
      exact ⟨name, (hclause slot name).2 hmem⟩

/-- The pistol with the shot of the shotgun in its flash. -/
theorem convertWeapon_fires_double :
    ∃ (s : Session) (w : Weapon), s = Session.patched 21 [.weaponField 1 "Firing frame" 22] ∧ s.weapon? 1 = some w ∧
      (∀ name, Fires { session := s } w [.attack, .flash] name → name ∈ ["PLAYER_PISTOL", "PLAYER_SHOTGUN"]) ∧
      fired? { session := s } 22 = some "PLAYER_SHOTGUN" ∧
      ∃ (q : Press) (d : Draft) (text : String),
        Press.convertWeapon {} { session := s } 1 = .ok q ∧ Draft.ofWeapon { session := s } 1 = .ok d ∧
        d.block.Spelled text ∧ q.buffer.find? .weapons = some (LumpKind.weapons.header ++ text) ∧
        Animates d.block { session := s } (groups { session := s } w) (acts { session := s } w) ∧
        ∃ slot : AttackSlot, acts { session := s } w 22 = slot.shoot ∧
          ⟨slot.mark ++ "ATTACK", "PLAYER_SHOTGUN"⟩ ∈ d.block.clauses := by
  let s := Session.patched 21 [.weaponField 1 "Firing frame" 22]
  obtain ⟨w, hweapon, hnames, hchain⟩ : ∃ w, s.weapon? 1 = some w ∧
      firesOnly { session := s } w [.attack, .flash] ["PLAYER_PISTOL", "PLAYER_SHOTGUN"] = true ∧
      22 ∈ s.reel.chain (w.start .flash) := by
    set_option maxRecDepth 4000 in exact ⟨_, rfl, by decide, by decide⟩
  have hfired : fired? { session := s } 22 = some "PLAYER_SHOTGUN" := by
    set_option maxRecDepth 4000 in decide
  obtain ⟨-, q, d, text, hconverted, hdraft, hspelled, hlump, hanimates, hshown, hacts⟩ :=
    convertWeapon_fires hweapon ⟨["PLAYER_PISTOL", "PLAYER_SHOTGUN"], by decide, fun name => mem_of_fires hnames⟩ {}
  obtain ⟨g, hg, hframe⟩ := hshown .flash (by decide) 22 hchain
  obtain ⟨slot, hshoot, hclause⟩ :=
    ((hacts g hg 22 hframe).1 _ hfired).1.2 ⟨.flash, by simp, 22, hchain, hfired⟩
  exact ⟨s, w, rfl, hweapon, fun name => mem_of_fires hnames, hfired, q, d, text, hconverted, hdraft, hspelled, hlump,
    hanimates, slot, hshoot, (hclause _).2 rfl⟩

/-- The pistol with the shot of the shotgun in the frames that lower it: no clause names the attack, and the frame is
written as one that fires the pistol. -/
theorem lowering_fires_unnamed :
    ∃ (s : Session) (w : Weapon), Session.Reachable s ∧ s.weapon? 1 = some w ∧
      (∀ name, Fires { session := s } w Role.ofWeapon name → name ∈ ["PLAYER_PISTOL", "PLAYER_SHOTGUN"]) ∧
      22 ∈ s.reel.chain (w.start .down) ∧ fired? { session := s } 22 = some "PLAYER_SHOTGUN" ∧
      ∃ (q : Press) (d : Draft) (text : String),
        Press.convertWeapon {} { session := s } 1 = .ok q ∧ Draft.ofWeapon { session := s } 1 = .ok d ∧
        d.block.Spelled text ∧ q.buffer.find? .weapons = some (LumpKind.weapons.header ++ text) ∧
        Animates d.block { session := s } (groups { session := s } w) (acts { session := s } w) ∧
        acts { session := s } w 22 = "SHOOT" ∧ ⟨"ATTACK", "PLAYER_PISTOL"⟩ ∈ d.block.clauses ∧
        ∀ slot : AttackSlot, ⟨slot.mark ++ "ATTACK", "PLAYER_SHOTGUN"⟩ ∉ d.block.clauses := by
  let s := Session.patched 21 [.weaponField 1 "Select frame" 22]
  obtain ⟨w, hweapon, hattacks, hnames, hchain⟩ : ∃ w, s.weapon? 1 = some w ∧
      attacks { session := s } w = ["PLAYER_PISTOL"] ∧
      firesOnly { session := s } w Role.ofWeapon ["PLAYER_PISTOL", "PLAYER_SHOTGUN"] = true ∧
      22 ∈ s.reel.chain (w.start .down) := by
    set_option maxRecDepth 4000 in exact ⟨_, rfl, by decide, by decide, by decide⟩
  have hfired : fired? { session := s } 22 = some "PLAYER_SHOTGUN" := by
    set_option maxRecDepth 4000 in decide
  have hclause := attackClause_mem_block_iff { session := s } w (quietKey_of_mem_states { session := s } w)
  have hslots : slots { session := s } w = [(.first, "PLAYER_PISTOL")] := by
    unfold slots
    rw [hattacks]
    rfl
  obtain ⟨q, d, text, hdraft, hblock, hconverted, hspelled, hlump⟩ :=
    Press.find?_convertWeapon {} { session := s } hweapon
  refine ⟨s, w, Session.reachable_patched _ _, hweapon, fun name => mem_of_fires hnames, hchain, hfired, q, d, text,
    hconverted, hdraft, hspelled, hlump, ?_⟩
  rw [hblock]
  refine ⟨animates_block _ w, ?_, (hclause .first "PLAYER_PISTOL").2 (by simp [hslots]), ?_⟩
  · exact acts_of_not_mem_attacks hfired (by simp [hattacks])
  · intro slot hmem
    have hslot := (hclause slot _).1 hmem
    simp [hslots] at hslot

end DoomPatch
