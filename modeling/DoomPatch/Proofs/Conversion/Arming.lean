import DoomPatch.Proofs.Animation.Playback
import DoomPatch.Proofs.Baseline.References
import DoomPatch.Proofs.Chain.Reach
import DoomPatch.Proofs.Conversion.Parts
import DoomPatch.Proofs.Definition.Strike
import DoomPatch.Proofs.Session.Names

/-!
# Definitions come with the attacks they strike with

Whatever scratch attack a definition strikes with, in a clause or in an action of its state lists, is among the scratch
attacks of its draft, which are written with it.

* `quietKey`, `Quiets` — clauses that are neither state lists nor name a close attack never strike.
* `View.Tidy` — what is known of the names in a view; a session whose names are in order has such a view.
* `Action.tame_ofFrame` — the actions of frames are texts in which a strike can be told.
* `Animation.exists_group_of_mem_chain` — the frames of the chains of an entity are in its groups.
* `Draft.Armed` — a draft has all scratch attacks that it strikes with.
* `Draft.armed_of_ofThing`, `Draft.armed_of_ofWeapon`, `Draft.armed_of_mem_drafts` — all drafts do.
-/

namespace DoomPatch

/-! ### Clauses that never strike -/

/-- Whether a key neither names a close attack nor begins a state list. -/
def quietKey (key : String) : Bool := key != "CLOSE_ATTACK" && !("STATES(".toList.isPrefixOf key.toList)

/-- All clauses have keys under which nothing strikes. -/
def Quiets (cs : List Clause) : Prop := ∀ c ∈ cs, quietKey c.key = true

theorem Clause.not_strikes_of_quietKey {c : Clause} (hquiet : quietKey c.key = true) (name : String) :
    ¬ c.Strikes name := by
  unfold quietKey at hquiet
  rw [Bool.and_eq_true, bne_iff_ne, Bool.not_eq_true'] at hquiet
  rintro (⟨hkey, -⟩ | ⟨hstates, -⟩)
  · exact hquiet.1 hkey
  · rw [List.isPrefixOf_iff_prefix.2 hstates] at hquiet
    exact absurd hquiet.2 (by simp)

theorem quiets_nil : Quiets [] := by simp [Quiets]

theorem quiets_append {cs cs' : List Clause} : Quiets (cs ++ cs') ↔ Quiets cs ∧ Quiets cs' := by
  simp [Quiets, or_imp, forall_and]

theorem quiets_cons {key value : String} {cs : List Clause} (hkey : quietKey key = true) :
    Quiets (⟨key, value⟩ :: cs) ↔ Quiets cs := by
  simp [Quiets, hkey]

theorem quiets_clauseIf {test : Bool} {key value : String} (hkey : quietKey key = true) :
    Quiets (Definition.clauseIf test key value) := by
  unfold Definition.clauseIf
  split <;> simp [Quiets, hkey]

theorem quiets_clauseFor {α : Type} {key : String} {form : α → String} {a : Option α} (hkey : quietKey key = true) :
    Quiets (Definition.clauseFor key form a) := by
  cases a <;> simp [Definition.clauseFor, Quiets, hkey]

theorem quiets_listClause {key : String} {items : List String} (hkey : quietKey key = true) :
    Quiets (Definition.listClause key items) := by
  unfold Definition.listClause
  split <;> simp [Quiets, hkey]

theorem quiets_soundClause {key : String} {id : Int} (hkey : quietKey key = true) :
    Quiets (ThingDefinition.soundClause key id) := quiets_clauseIf hkey

theorem Scratch.quiets_block (s : Scratch) : Quiets s.block.clauses := by
  unfold Scratch.block
  dsimp only
  simp (disch := decide) only [quiets_append, quiets_cons, quiets_nil, quiets_clauseIf, and_self]

/-! ### Names in a view -/

/-- The names in a view can be put into definitions: sprites do not open a strike, other names have no brackets, and
messages have references of their own. -/
structure View.Tidy (v : View) : Prop where
  sprites : ∀ id, Calm (v.session.spriteName id).toList
  things : ∀ id t, v.thing? id = some t → Bare t.ddfName
  weapons : ∀ id w, v.session.weapon? id = some w → Bare w.name
  texts : ∀ e ∈ v.session.texts.entries, quietKey e.1 = true

theorem Session.Named.calm_sprite {s : Session} (hs : s.Named) (id : Int) : Calm (s.spriteName id).toList := by
  have hshort : ∀ {name : String}, name.toList.length ≤ 4 → Calm name.toList :=
    fun hlength => calm_of_length_lt (by omega)
  unfold Session.spriteName
  cases hget : s.sprites.get? id with
  | some name => exact hshort (hs.fair.sprites id name hget)
  | none =>
      cases hbase : Baseline.sprite? id with
      | some name => exact hshort (Baseline.length_sprite? hbase)
      | none => exact calm_of_not_mem (Baseline.bracket_not_mem_extraSpriteName id)

/-- A session whose names are in order has a view whose names are. -/
theorem Session.Named.tidy {s : Session} (hs : s.Named) : View.Tidy { session := s } where
  sprites := hs.calm_sprite
  things := by
    intro id t hthing
    rw [View.thing?_plain] at hthing
    exact hs.bare_thing hthing
  weapons := by
    intro id w hweapon
    obtain ⟨w₀, hbase, hname⟩ := hs.exists_weapon hweapon
    rw [← hname]
    exact Baseline.bare_weapon? hbase
  texts := by
    intro e he
    have hrefs : ∀ ref ∈ Baseline.phrases.map (·.ref), quietKey ref = true := by decide
    obtain ⟨value, hget⟩ := Option.isSome_iff_exists.1
      ((SortedMap.mem_keys_iff s.texts e.1).1 (List.mem_map_of_mem he))
    exact hrefs e.1 (hs.fair.texts e.1 value hget)

theorem View.Tidy.bare_referred? {v : View} (hv : v.Tidy) {number : Int} {name : String}
    (hreferred : v.referred? number = some name) : Bare name := by
  unfold View.referred? at hreferred
  split at hreferred
  · cases hreferred
  · obtain ⟨t, hthing, rfl⟩ := Option.map_eq_some_iff.1 hreferred
    exact hv.things _ t hthing

/-! ### Actions -/

/-- What the catalog says never strikes by itself. -/
theorem CodePointer.calm_ddf {p : CodePointer} (hp : p ∈ catalog) : Calm p.ddf.toList := by
  -- Few texts have a bracket at all, and only these are taken apart.
  have hall : ∀ p ∈ catalog, bareBytes p.ddf = true ∨ ¬ strikeWord <:+: p.ddf.toList := by decide
  rcases hall p hp with hbytes | hnot
  · exact calm_of_not_mem (bare_of_bytes hbytes).1
  · rintro tail ⟨front, heq⟩
    exact hnot ⟨front, tail, heq.symm⟩

/-- A word with a bare name in brackets does not open a strike, unless it is the word of a strike. -/
theorem calm_call (word : String) {opening name : String} (hopening : opening = word ++ "(") (hword : '(' ∉ word.toList)
    (hother : ¬ "CLOSE_ATTACK".toList <:+ word.toList) (hname : Bare name) : Calm (opening ++ name ++ ")").toList := by
  intro tail hopens
  have htext : (opening ++ name ++ ")").toList = word.toList ++ '(' :: (name.toList ++ [')']) := by simp [hopening]
  have hstrike : strikeWord = "CLOSE_ATTACK".toList ++ ['('] := rfl
  rw [htext, hstrike] at hopens
  exact hother (hopens.of_call hword (by simpa using hname.1)).2

theorem Scratch.bare_nameOf {owner : String} (howner : Bare owner) (frame : Int) : Bare (nameOf owner frame) := by
  have htext : nameOf owner frame = "SCRATCH_" ++ owner ++ "_" ++ toString frame := by simp [nameOf, toString]
  rw [htext]
  exact bare_append (bare_append (bare_append (bare_of_bytes (by decide)) howner) (bare_of_bytes (by decide)))
    (bare_toString frame)

namespace Action

theorem tame_scratch {s : Scratch} (hname : Bare s.name) : (scratch s).Tame := hname

theorem tame_plain {text : String} (hcalm : Calm text.toList) : (plain text).Tame := hcalm

theorem tame_range {name : String} (hname : Bare name) : (range name).Tame :=
  show Calm ("RANGE_ATTACK(" ++ name ++ ")").toList from
    calm_call "RANGE_ATTACK" rfl (by decide) (by decide) hname

theorem tame_spawn {name : String} (hname : Bare name) : (spawn name).Tame :=
  show Calm ("SPAWN(" ++ name ++ ")").toList from calm_call "SPAWN" rfl (by decide) (by decide) hname

theorem tame_sound {ref : String} (href : Bare ref) : (sound ref).Tame :=
  show Calm ("PLAYSOUND(" ++ ref ++ ")").toList from calm_call "PLAYSOUND" rfl (by decide) (by decide) href

/-- What is made of a name that a frame refers to is tame, if what stands for a missing name is. -/
theorem tame_referred {v : View} (hv : v.Tidy) {make : String → Action} (hmake : ∀ {name}, Bare name → (make name).Tame)
    {other : Action} (hother : other.Tame) (number : Int) : (((v.referred? number).map make).getD other).Tame := by
  cases hreferred : v.referred? number with
  | none => exact hother
  | some name => exact hmake (hv.bare_referred? hreferred)

/-- Actions of frames strike with scratch attacks or not at all. -/
theorem tame_ofFrame {v : View} (hv : v.Tidy) {owner : String} (howner : Bare owner) (id : Int) (f : Frame) :
    (ofFrame v owner id f).Tame := by
  unfold ofFrame
  cases hp : CodePointer.ofAction? f.action with
  | none => exact tame_plain (calm_of_length_lt (by decide))
  | some p =>
      have hplain : (plain p.ddf).Tame := tame_plain (CodePointer.calm_ddf (CodePointer.mem_catalog_of_ofAction? hp))
      dsimp only
      split
      · exact tame_scratch (Scratch.bare_nameOf howner id)
      · exact tame_scratch (Scratch.bare_nameOf howner id)
      · exact tame_referred hv tame_range hplain _
      · exact tame_referred hv tame_spawn hplain _
      · exact tame_referred hv tame_spawn hplain _
      · split
        · exact tame_sound (Baseline.bare_soundRef f.misc1)
        · exact hplain
      · exact hplain

end Action

/-! ### Frames of an animation -/

/-- The frames of the chains of an entity are in its groups. -/
theorem Animation.exists_group_of_mem_chain {r : Reel} {starts : List (Role × Int)}
    (hroles : (starts.map Prod.fst).Nodup) {role : Role} {start : Int} (hstart : (role, start) ∈ starts) {id : Int}
    (hid : id ∈ r.chain start) : ∃ g ∈ build r starts, id ∈ g.frames := by
  obtain ⟨⟨ids, hpath, -⟩, hne, hframe⟩ := (r.mem_chain_iff).1 hid
  obtain ⟨f, hframe⟩ := Option.isSome_iff_exists.1 hframe
  have hvisited : r.visited? start ids.length = some id := by
    rw [hpath.visited?_length, Reel.shown?_of_frame hne hframe]
  -- The frame is visited, so the start can be shown and has a group.
  have hshown : (r.shown? start).isSome = true := by
    cases hshown : r.shown? start with
    | none =>
        rw [visited?_eq_none_of_shown? hshown] at hvisited
        cases hvisited
    | some start => rfl
  have hseed : (role, start) ∈ (build r starts).map seedOf := by
    rw [map_seedOf_build]
    exact List.mem_filter.2 ⟨hstart, hshown⟩
  obtain ⟨g, hg, hgseed⟩ := List.mem_map.1 hseed
  obtain ⟨rfl, rfl⟩ := Prod.mk.inj hgseed
  have hgroups : ((build r starts).map (·.role)).Nodup := hroles.sublist (sublist_map_role_build r starts)
  have hshows := shows_place? hgroups (laid_of_mem_build r starts) (fun _ _ => rfl) hg ids.length
  rw [hvisited] at hshows
  generalize (build r starts).place? _ g.role ids.length = place at hshows
  cases hshows with
  | @frame p _ hmem hplace => exact ⟨p.group, hmem, List.mem_of_getElem? hplace⟩

theorem Storyboard.mem_scratches {v : View} {act : Int → Frame → Action} {groups : Animation} {g : Group}
    (hg : g ∈ groups) {id : Int} (hid : id ∈ g.frames) {s : Scratch}
    (hs : (act id ((v.reel.frame? id).getD {})).scratch? = some s) : s ∈ (ofAnimation v act groups).scratches :=
  List.mem_flatMap.2 ⟨g, hg, List.mem_filterMap.2 ⟨id, hid, hs⟩⟩

/-! ### Things -/

/-- The name of a scratch attack. -/
def IsScratchName (name : String) : Prop := "SCRATCH_".toList <+: name.toList

namespace ThingDefinition

/-- Apart from the state lists and the attacks, nothing in the definition of a thing strikes. -/
theorem mem_of_strikes {v : View} {id : Int} {t : Thing} {b : Storyboard} {c : Clause} (hc : c ∈ clauses v id t b)
    {name : String} (hstrikes : c.Strikes name) : c ∈ states b ∨ c ∈ attacks v t := by
  have hmeasures : Quiets (measures v t) := by
    unfold measures
    simp (disch := decide) only [quiets_append, quiets_cons, quiets_nil, quiets_clauseIf, quiets_clauseFor, and_self]
  have hbenefit : Quiets (if id = player then [initialBenefit v t] else []) := by
    unfold initialBenefit
    split
    · exact (quiets_cons (by decide)).2 quiets_nil
    · exact quiets_nil
  have hsounds : Quiets (sounds t) := by
    unfold sounds
    simp (disch := decide) only [quiets_append, quiets_soundClause, and_self]
  have hspecials : Quiets (specials v id t) := by
    unfold specials
    simp (disch := decide) only [quiets_append, quiets_listClause, quiets_clauseIf, quiets_clauseFor, and_self]
  have hdamage : Quiets (damage v t) := by
    unfold damage
    rw [quiets_append]
    refine ⟨quiets_clauseFor (by decide), ?_⟩
    split
    · simp (disch := decide) only [quiets_cons, quiets_nil]
    · exact quiets_nil
  have hpickup : Quiets (((Pickup.ofThing? v t).map (Pickup.clauses v)).getD []) := by
    cases Pickup.ofThing? v t with
    | none => exact quiets_nil
    | some p =>
        rw [Option.map_some, Option.getD_some]
        unfold Pickup.clauses
        simp (disch := decide) only [quiets_append, quiets_cons, quiets_nil, quiets_clauseFor, and_self]
  have hdrop : Quiets (Definition.clauseFor "DROPITEM" (fun s => s) (drop? v id t)) := quiets_clauseFor (by decide)
  have hcast : Quiets (Definition.clauseFor "CASTORDER" toString (Cast.standard.place? id)) :=
    quiets_clauseFor (by decide)
  have hquiet : ∀ {cs : List Clause}, Quiets cs → c ∉ cs :=
    fun hcs hmem => Clause.not_strikes_of_quietKey (hcs c hmem) name hstrikes
  unfold clauses at hc
  simpa [hquiet hmeasures, hquiet hbenefit, hquiet hsounds, hquiet hspecials, hquiet hdamage, hquiet hpickup,
    hquiet hdrop, hquiet hcast] using hc

/-- The attacks of a thing strike with what a frame of its chains fires. -/
theorem exists_frame_of_strikes {v : View} {t : Thing} {c : Clause} (hc : c ∈ attacks v t) {name : String}
    (hstrikes : c.Strikes name) :
    ∃ role ∈ [Role.melee, Role.missile], ∃ id ∈ v.reel.chain (t.start role), (frameAttacks v t.ddfName id).close = name := by
  have hquiet : ∀ {key : String} {a : Option String}, quietKey key = true → c ∉ Definition.clauseFor key id a :=
    fun hkey hmem => Clause.not_strikes_of_quietKey (quiets_clauseFor hkey c hmem) name hstrikes
  unfold attacks at hc
  dsimp only at hc
  rw [List.mem_append, List.mem_append] at hc
  rcases hc with (hc | hc) | hc
  · cases hfirst : firstNamed (((v.reel.chain t.melee).map (frameAttacks v t.ddfName) ++
        (v.reel.chain t.missile).map (frameAttacks v t.ddfName)).map (·.close)) with
    | none =>
        rw [hfirst] at hc
        cases hc
    | some close =>
        rw [hfirst] at hc
        obtain rfl : c = ⟨"CLOSE_ATTACK", close⟩ := List.mem_singleton.1 hc
        have hname : close = name := by
          rcases hstrikes with ⟨-, hvalue⟩ | ⟨hkey, -⟩
          · exact hvalue
          · have hstates : "STATES(".toList <+: "CLOSE_ATTACK".toList := hkey
            exact absurd hstates (by decide)
        have hmem := List.mem_of_find?_eq_some hfirst
        rw [List.map_append, List.map_map, List.map_map, List.mem_append] at hmem
        rcases hmem with hmem | hmem
        · obtain ⟨id, hid, hclose⟩ := List.mem_map.1 hmem
          exact ⟨.melee, by simp, id, hid, hclose.trans hname⟩
        · obtain ⟨id, hid, hclose⟩ := List.mem_map.1 hmem
          exact ⟨.missile, by simp, id, hid, hclose.trans hname⟩
  · exact absurd hc (hquiet (by decide))
  · exact absurd hc (hquiet (by decide))

set_option maxRecDepth 4000 in
/-- A frame that fires a scratch attack strikes with it. -/
theorem exists_scratch_of_close {v : View} {owner name : String} {id : Int} (hname : IsScratchName name)
    (hclose : (frameAttacks v owner id).close = name) :
    ∃ s, (Action.ofFrame v owner id ((v.reel.frame? id).getD {})).scratch? = some s ∧ s.name = name := by
  have hmelee : ∀ p ∈ CodePointer.catalog, p.has Behaviour.meleeScratch = true →
      p.mnemonic = "Scratch" ∨ p.mnemonic = "MonsterMeleeAttack" := by decide
  have hother : ∀ p ∈ CodePointer.catalog, ¬ IsScratchName p.attacks.close := by
    unfold IsScratchName
    decide
  have hempty : "" ≠ name := by
    rintro rfl
    exact absurd hname (by unfold IsScratchName; decide)
  unfold frameAttacks at hclose
  unfold Action.ofFrame
  dsimp only at hclose
  cases hp : CodePointer.ofAction? ((v.reel.frame? id).getD {}).action with
  | none =>
      rw [hp] at hclose
      exact absurd hclose hempty
  | some p =>
      have hmem := CodePointer.mem_catalog_of_ofAction? hp
      rw [hp] at hclose
      dsimp only at hclose ⊢
      split at hclose
      · next hscratch =>
        rcases hmelee p hmem hscratch with hmnemonic | hmnemonic
        · rw [hmnemonic]
          exact ⟨_, rfl, hclose⟩
        · rw [hmnemonic]
          exact ⟨_, rfl, hclose⟩
      · split at hclose
        · exact absurd hclose hempty
        · exact absurd (hclose ▸ hname) (hother p hmem)

/-- The roles of a thing are shown from its own frames, but for the one in which it rests. -/
theorem mem_of_shown? {v : View} {id : Int} {t : Thing} {starts : List (Role × Int)} (hshown : shown? v id t = some starts)
    {role : Role} (hrole : role ∈ Role.ofThing) (hspawn : role ≠ .spawn) : (role, t.start role) ∈ starts := by
  unfold shown? at hshown
  split at hshown
  · obtain ⟨fog, -, rfl⟩ := Option.map_eq_some_iff.1 hshown
    refine List.mem_map.2 ⟨role, hrole, ?_⟩
    cases role with
    | spawn => exact absurd rfl hspawn
    | _ => rfl
  · cases hshown
    exact List.mem_map.2 ⟨role, hrole, rfl⟩

theorem roles_of_shown? {v : View} {id : Int} {t : Thing} {starts : List (Role × Int)}
    (hshown : shown? v id t = some starts) : starts.map Prod.fst = Role.ofThing := by
  unfold shown? at hshown
  split at hshown
  · obtain ⟨fog, -, rfl⟩ := Option.map_eq_some_iff.1 hshown
    rfl
  · cases hshown
    rfl

end ThingDefinition

/-- What stands for missing animations does not strike. -/
theorem Clause.not_strikes_of_calm {c : Clause} (hkey : c.key ≠ "CLOSE_ATTACK") (hcalm : Calm c.value.toList)
    (name : String) : ¬ c.Strikes name := by
  rintro (⟨hclose, -⟩ | ⟨-, -, front, rear, heq⟩)
  · exact hkey hclose
  · exact hcalm (name.toList ++ [')'] ++ rear) ⟨front, by simp [← heq]⟩

/-! ### Drafts -/

/-- A definition strikes with an attack. -/
def Block.Strikes (b : Block) (name : String) : Prop := ∃ c ∈ b.clauses, c.Strikes name

theorem Quiets.not_strikes {b : Block} (hquiet : Quiets b.clauses) (name : String) : ¬ b.Strikes name := by
  rintro ⟨c, hc, hstrikes⟩
  exact Clause.not_strikes_of_quietKey (hquiet c hc) name hstrikes

namespace Draft

/-- A draft is one of an attack exactly if it goes to the lump of attacks, and it has all scratch attacks that its
definition strikes with. -/
structure Armed (d : Draft) : Prop where
  attack : d.attack.isSome = true ↔ d.kind = .attacks
  scratches : ∀ name, d.block.Strikes name → IsScratchName name → ∃ s ∈ d.scratches, s.name = name

variable {v : View} {id : Int} {t : Thing} {d : Draft}

theorem armed_thing (hv : v.Tidy) (hname : Bare t.ddfName) (hd : thing v id t = .ok d) : d.Armed := by
  unfold thing at hd
  cases hshown : ThingDefinition.shown? v id t with
  | none =>
      rw [hshown] at hd
      cases hd
  | some starts =>
      rw [hshown] at hd
      cases hd
      refine ⟨by simp, ?_⟩
      rintro name ⟨c, hc, hstrikes⟩ hscratch
      rcases ThingDefinition.mem_of_strikes hc hstrikes with hstates | hattacks
      · unfold ThingDefinition.states at hstates
        split at hstates
        · rw [List.mem_singleton] at hstates
          subst hstates
          exact absurd hstrikes (Clause.not_strikes_of_calm (by decide) (calm_of_not_mem (by decide)) name)
        · exact Storyboard.exists_scratch_of_strikes hv.sprites (Action.tame_ofFrame hv hname) hstates hstrikes
      · -- The attack is fired in a frame of a chain, and that frame is in a group.
        obtain ⟨role, hrole, frame, hframe, hclose⟩ := ThingDefinition.exists_frame_of_strikes hattacks hstrikes
        have hfighting : ∀ role ∈ [Role.melee, Role.missile], role ∈ Role.ofThing ∧ role ≠ .spawn := by decide
        have hroles := hfighting role hrole
        obtain ⟨s, hs, hsname⟩ := ThingDefinition.exists_scratch_of_close hscratch hclose
        have hstart := ThingDefinition.mem_of_shown? hshown hroles.1 hroles.2
        have hnodup : (starts.map Prod.fst).Nodup := by
          rw [ThingDefinition.roles_of_shown? hshown]
          decide
        obtain ⟨g, hg, hmem⟩ := Animation.exists_group_of_mem_chain hnodup hstart hframe
        exact ⟨s, Storyboard.mem_scratches hg hmem hs, hsname⟩

/-- The definition of an attack strikes in its state lists only. -/
theorem exists_scratch_of_attack (hv : v.Tidy) {owner name : String} (howner : Bare owner) {e : AttackEntry}
    {deathSound : Int} {starts : List (Role × Int)}
    (hstrikes : (AttackDefinition.block v e t deathSound (ThingDefinition.storyboard v owner starts)).Strikes name) :
    ∃ s ∈ (ThingDefinition.storyboard v owner starts).scratches, s.name = name := by
  obtain ⟨c, hc, hstrikes⟩ := hstrikes
  have hquiet : Quiets (AttackDefinition.clauses v e t deathSound) := by
    have hdamage : Quiets (AttackDefinition.damage t) := by
      unfold AttackDefinition.damage
      split
      · simp (disch := decide) only [quiets_cons, quiets_nil]
      · exact quiets_nil
    unfold AttackDefinition.clauses
    simp (disch := decide) only [quiets_append, quiets_cons, quiets_nil, quiets_clauseIf, quiets_clauseFor,
      quiets_soundClause, quiets_listClause, hdamage, and_self]
  rcases List.mem_append.1 hc with hclause | hstates
  · exact absurd hstrikes (Clause.not_strikes_of_quietKey (hquiet c hclause) name)
  · exact Storyboard.exists_scratch_of_strikes hv.sprites (Action.tame_ofFrame hv howner) hstates hstrikes

theorem armed_cube (hv : v.Tidy) (hd : cube v = .ok d) : d.Armed := by
  unfold cube at hd
  cases hshot : v.thing? AttackEntry.spawnShot with
  | none =>
      rw [hshot] at hd
      cases hd
  | some shot =>
      cases hfire : v.thing? AttackEntry.spawnFire with
      | none =>
          rw [hshot, hfire] at hd
          cases hd
      | some fire =>
          rw [hshot, hfire] at hd
          cases hd
          exact ⟨by simp, fun name hstrikes _ => exists_scratch_of_attack hv (hv.things _ shot hshot) hstrikes⟩

theorem armed_attackThing (hv : v.Tidy) (hname : Bare t.ddfName) (hd : attackThing v id t = .ok d) : d.Armed := by
  unfold attackThing at hd
  split at hd
  · exact armed_cube hv hd
  · cases hentry : AttackEntry.ofThing? id with
    | none =>
        rw [hentry] at hd
        cases hd
    | some e =>
        rw [hentry] at hd
        cases hd
        exact ⟨by simp, fun name hstrikes _ => exists_scratch_of_attack hv hname hstrikes⟩

theorem armed_plainThing (hv : v.Tidy) (hname : Bare t.ddfName) (hd : plainThing v id t = .ok d) : d.Armed := by
  unfold plainThing at hd
  split at hd
  · exact armed_cube hv hd
  · exact armed_thing hv hname hd

theorem armed_of_ofThing (hv : v.Tidy) (hd : ofThing v id = .ok d) : d.Armed := by
  unfold ofThing at hd
  cases hthing : v.thing? id with
  | none =>
      rw [hthing] at hd
      cases hd
  | some t =>
      rw [hthing] at hd
      dsimp only at hd
      split at hd
      · exact armed_attackThing hv (hv.things id t hthing) hd
      · exact armed_plainThing hv (hv.things id t hthing) hd

/-- The actions of a weapon are those of its frames, or fire one of its attacks. -/
theorem tame_action (hv : v.Tidy) {w : Weapon} (hname : Bare w.name) (id : Int) (f : Frame) :
    (WeaponDefinition.action v w id f).Tame := by
  have hslots : ∀ slot : AttackSlot, (Action.plain slot.shoot).Tame := by
    intro slot
    cases slot <;> exact Action.tame_plain (calm_of_length_lt (by decide))
  unfold WeaponDefinition.action
  split
  · cases (WeaponDefinition.slots v w).find? _ with
    | none => exact hslots .first
    | some e => exact hslots e.1
  · exact Action.tame_ofFrame hv hname id f

theorem quiets_weapon (w : Weapon) : Quiets (WeaponDefinition.attackClauses v w) := by
  have hslot : ∀ slot : AttackSlot, quietKey (slot.mark ++ "AMMOTYPE") = true ∧
      quietKey (slot.mark ++ "AMMOPERSHOT") = true ∧ quietKey (slot.mark ++ "ATTACK") = true := by
    intro slot
    cases slot <;> decide
  have hammo : ∀ slot : AttackSlot, Quiets (WeaponDefinition.ammoClauses v w slot.mark) := by
    intro slot
    unfold WeaponDefinition.ammoClauses
    rw [quiets_cons (hslot slot).1, quiets_cons (hslot slot).2.1]
    exact quiets_nil
  unfold WeaponDefinition.attackClauses
  split
  · exact hammo .first
  · intro c hc
    obtain ⟨e, -, hc⟩ := List.mem_flatMap.1 hc
    have hclauses : Quiets (WeaponDefinition.slotClauses v w e) := by
      unfold WeaponDefinition.slotClauses
      rw [quiets_append, quiets_cons (hslot e.1).2.2]
      exact ⟨hammo e.1, quiets_nil⟩
    exact hclauses c hc

theorem armed_of_ofWeapon (hv : v.Tidy) (hd : ofWeapon v id = .ok d) : d.Armed := by
  unfold ofWeapon at hd
  cases hweapon : v.session.weapon? id with
  | none =>
      rw [hweapon] at hd
      cases hd
  | some w =>
      rw [hweapon] at hd
      cases hd
      refine ⟨by simp, ?_⟩
      rintro name ⟨c, hc, hstrikes⟩ -
      have hquiet : ∀ {cs : List Clause}, Quiets cs → c ∉ cs :=
        fun hcs hmem => Clause.not_strikes_of_quietKey (hcs c hmem) name hstrikes
      have hkeys : Quiets [⟨"BINDKEY", toString w.slot⟩, ⟨"PRIORITY", toString w.priority⟩] := by
        simp (disch := decide) only [quiets_cons, quiets_nil]
      have hspecial : Quiets (Definition.listClause "SPECIAL" (Special.names Special.ofWeaponFlags w.flags)) :=
        quiets_listClause (by decide)
      unfold WeaponDefinition.block at hc
      dsimp only at hc
      rw [List.mem_append, List.mem_append, List.mem_append] at hc
      rcases hc with ((hc | hc) | hc) | hc
      · exact absurd hc (hquiet (quiets_weapon w))
      · exact absurd hc (hquiet hkeys)
      · exact absurd hc (hquiet hspecial)
      · split at hc
        · rw [List.mem_singleton] at hc
          subst hc
          exact absurd hstrikes (Clause.not_strikes_of_calm (by decide) (calm_of_not_mem (by decide)) name)
        · exact Storyboard.exists_scratch_of_strikes hv.sprites (tame_action hv (hv.weapons id w hweapon)) hc hstrikes

/-- All drafts of a conversion have the scratch attacks that they strike with. -/
theorem armed_of_mem_drafts (hv : v.Tidy) (hd : .ok d ∈ Conversion.drafts v) : d.Armed := by
  have hrecord : ∀ id, Bare (Conversion.record v id).ddfName := by
    intro id
    unfold Conversion.record
    cases hthing : v.thing? id with
    | none => exact bare_of_bytes (by decide)
    | some t => exact hv.things id t hthing
  unfold Conversion.drafts at hd
  rw [List.mem_append, List.mem_append, List.mem_append] at hd
  rcases hd with ((hd | hd) | hd) | hd
  · obtain ⟨id, -, hd⟩ := List.mem_map.1 hd
    exact armed_plainThing hv (hrecord id) hd
  · obtain ⟨id, -, hd⟩ := List.mem_map.1 hd
    exact armed_attackThing hv (hrecord id) hd
  · unfold Conversion.cubes at hd
    split at hd
    · exact armed_cube hv (List.mem_singleton.1 hd).symm
    · cases hd
  · obtain ⟨id, -, hd⟩ := List.mem_map.1 hd
    exact armed_of_ofWeapon hv hd

end Draft
end DoomPatch
