import DoomPatch.Proofs.Conversion.Unmodified
import DoomPatch.Proofs.Definition.Benefit
import DoomPatch.Proofs.Session.Records

/-!
# The parts of an unmodified thing

The definition of a thing is put together from parts, each of which reads something else.  For a thing that is
not modified every part is compared with the unpatched game: most are the same, because whatever they read would
have marked the thing when it changed.  Two can differ: the state lists, where they are borrowed, and the
pickup.

* `starts_within` — the animations of an unmodified thing are those of the unpatched game.
* `measures_eq_new`, `initialBenefit_eq_new`, `specials_eq_new`, `damage_eq_new`, `drop?_eq_new` — the parts that
  are the same.
* `benefit_text_eq_new` — a pickup gives the same, unless it is a weapon.
* `clauses_eq_new` — what a definition has in common with that of the unpatched game.
-/

namespace DoomPatch

/-- In the plain view of a session nothing is hidden or renamed. -/
theorem View.thing?_plain (s : Session) (id : Int) : View.thing? { session := s } id = s.thing? id := by
  unfold View.thing?
  cases s.thing? id <;> rfl

namespace Session

variable {s : Session} {id : Int} {t : Thing}

/-- The animations of an unmodified thing lie within what the session shares with the unpatched game. -/
theorem starts_within (hs : Reachable s) (hid : s.things.get? id = none) (hbase : Baseline.thing? id = some t) :
    ∀ role ∈ Role.ofThing, s.Within (t.start role) :=
  fun role hrole => (hs.clean.things id hid _ ⟨t, hbase, role, hrole, rfl⟩).within

/-- Ammunition whose users are not all modified is as in the unpatched game. -/
theorem ammo?_eq_of_user (hs : Reachable s) (hid : s.things.get? id = none) {a : Int} (huser : id ∈ ammoUsers a) :
    s.ammo? a = Baseline.ammo? a := by
  by_cases hsame : s.ammo? a = Baseline.ammo? a
  · exact hsame
  · have hmodified := hs.marked.ammo a hsame id huser
    rw [hid] at hmodified
    cases hmodified

/-- A global value that configures an unmodified thing is as in the unpatched game. -/
theorem misc_eq_of_user (hs : Reachable s) (hid : s.things.get? id = none) {f : MiscField}
    (huser : id ∈ miscThings f) : f.get s.misc = f.get Baseline.misc := by
  by_cases hsame : f.get s.misc = f.get Baseline.misc
  · exact hsame
  · have hmodified := hs.marked.misc f hsame id huser
    rw [hid] at hmodified
    cases hmodified

/-- Things of the tables go by their old names. -/
theorem thingName_eq_new (hs : Reachable s) (version : Int) {n : Int} (hn : (Baseline.thing? n).isSome) :
    View.thingName { session := s } n = View.thingName { session := new version } n := by
  obtain ⟨t₀, hbase⟩ := Option.isSome_iff_exists.1 hn
  obtain ⟨t, hthing, hname⟩ := hs.thing_name hbase
  have hnew : (new version).thing? n = some t₀ := hbase
  unfold View.thingName
  rw [View.thing?_plain, View.thing?_plain, hthing, hnew]
  simp only [Option.map_some, Option.getD_some, Thing.ddfName, hname]

theorem measures_eq_new (s : Session) (version : Int) (hbase : Baseline.thing? id = some t) :
    ThingDefinition.measures { session := s } t = ThingDefinition.measures { session := new version } t := by
  have hblood := (Baseline.references_nonpos hbase).1
  unfold ThingDefinition.measures
  rw [View.referred?_of_nonpos _ hblood, View.referred?_of_nonpos _ hblood]

/-- The player starts as in the unpatched game, unless modified. -/
theorem initialBenefit_eq_new (hs : Reachable s) (version : Int)
    (hplayer : s.things.get? ThingDefinition.player = none) :
    ThingDefinition.initialBenefit { session := s } t = ThingDefinition.initialBenefit { session := new version } t := by
  have hammo : ∀ a, s.ammo? a = (new version).ammo? a :=
    fun a => ammo?_eq_of_user hs hplayer List.mem_cons_self
  have hbullets : s.misc.initialBullets = (new version).misc.initialBullets :=
    misc_eq_of_user hs hplayer (f := .initialBullets) List.mem_cons_self
  have htypes : View.ammoTypes { session := s } = View.ammoTypes { session := new version } :=
    View.ammoTypes_congr fun a _ => hammo a
  unfold ThingDefinition.initialBenefit
  rw [htypes, hammo 0, hbullets]

/-- An unmodified thing is a monster, and disloyal, as in the unpatched game: were monsters of a kind to fight
each other, it would have been marked. -/
theorem ofMonster_eq_new (hs : Reachable s) (version : Int) (hid : s.things.get? id = none)
    (hbase : Baseline.thing? id = some t) :
    Special.ofMonster { session := s } t = Special.ofMonster { session := new version } t := by
  have hmonster := Special.isMonster_eq (s.alike_new version) (starts_within hs hid hbase)
  unfold Special.ofMonster
  rw [hmonster]
  -- Marks go by the record alone, definitions by the animations too; no thing of the tables falls between.
  by_cases hlate : Special.isMonster { session := new version } t = true
  · have hearly : Monster.judge t none = true := Baseline.judge_early_of_late hbase hlate
    have hpeace : s.misc.infighting = false := by
      cases hon : s.misc.infighting with
      | false => rfl
      | true =>
          have hmodified := hs.marked.infight hon id t hbase hearly
          rw [hid] at hmodified
          cases hmodified
    have hpeace' : (new version).misc.infighting = false := (by decide : Baseline.misc.infighting = false)
    rw [hpeace, hpeace']
  · rw [if_neg hlate, if_neg hlate]

theorem specials_eq_new (hs : Reachable s) (version : Int) (hid : s.things.get? id = none)
    (hbase : Baseline.thing? id = some t) :
    ThingDefinition.specials { session := s } id t = ThingDefinition.specials { session := new version } id t := by
  unfold ThingDefinition.specials Special.ofThing
  rw [ofMonster_eq_new hs version hid hbase]

theorem damage_eq_new (hs : Reachable s) (version : Int) (hid : s.things.get? id = none)
    (hbase : Baseline.thing? id = some t) :
    ThingDefinition.damage { session := s } t = ThingDefinition.damage { session := new version } t := by
  unfold ThingDefinition.damage
  rw [ThingDefinition.explosion?_eq (s.alike_new version) (starts_within hs hid hbase)]

theorem drop?_eq_new (hs : Reachable s) (version : Int) (hbase : Baseline.thing? id = some t) :
    ThingDefinition.drop? { session := s } id t = ThingDefinition.drop? { session := new version } id t := by
  have hdropped := (Baseline.references_nonpos hbase).2
  have hdrops : ∀ n ∈ ([63, 77, 73] : List Int), (Baseline.thing? n).isSome := by
    intro n hn
    have hbounds : ∀ n ∈ ([63, 77, 73] : List Int), 0 ≤ n ∧ n < Baseline.numThings := by decide
    exact Baseline.isSome_thing? (hbounds n hn)
  have hstandard : ∀ n, ThingDefinition.standardDrop? id = some n → n ∈ ([63, 77, 73] : List Int) := by
    intro n hn
    unfold ThingDefinition.standardDrop? at hn
    split at hn <;> cases hn <;> decide
  unfold ThingDefinition.drop?
  rw [View.referred?_of_nonpos _ hdropped, View.referred?_of_nonpos _ hdropped]
  cases hdrop : ThingDefinition.standardDrop? id with
  | none => rfl
  | some n =>
      rw [Option.map_some, Option.map_some, thingName_eq_new hs version (hdrops n (hstandard n hdrop))]

/-! ### Pickups -/

/-- What is not special is no pickup. -/
theorem pickup_eq_none {v : View} (hspecial : t.has ThingFlag.special = false) : Pickup.ofThing? v t = none := by
  unfold Pickup.ofThing?
  rw [hspecial, if_neg (by decide)]

/-- An unmodified thing is the same pickup as in the unpatched game. -/
theorem pickup_eq_new (hs : Reachable s) (version : Int) (hid : s.things.get? id = none)
    (hbase : Baseline.thing? id = some t) :
    Pickup.ofThing? { session := s } t = Pickup.ofThing? { session := new version } t :=
  Pickup.ofThing?_eq (s.alike_new version) fun hspecial =>
    ⟨starts_within hs hid hbase .spawn (by decide), Baseline.spawn_ne_zero_of_special hbase hspecial⟩

/-- An unmodified pickup gives what it gives in the unpatched game, unless it is a weapon. -/
theorem benefit_text_eq_new (hs : Reachable s) (version : Int) (hid : s.things.get? id = none)
    (hbase : Baseline.thing? id = some t) {p : Pickup}
    (hpickup : Pickup.ofThing? { session := new version } t = some p) (hweapon : p.benefit.isWeapon = false) :
    p.benefit.text { session := s } = p.benefit.text { session := new version } := by
  obtain ⟨hmisc, hammo⟩ := users_of_pickup hbase hpickup
  have hammo := hammo.resolve_left (by rw [hweapon]; decide)
  exact Benefit.text_congr (fun a ha => ammo?_eq_of_user hs hid (hammo a ha))
    (fun f hf => misc_eq_of_user hs hid (hmisc f hf))

/-- The ammunition that a weapon comes with. -/
def clips (s : Session) (type : Int) : Int := Word.mul ((s.ammo? type).getD {}).per 2

/-- A weapon gives what it gives in the unpatched game exactly if it comes with as much ammunition. -/
theorem weapon_text_eq_iff (hs : Reachable s) (version : Int) (name : String) (type : Int) :
    (Benefit.weapon name type).text { session := s } = (Benefit.weapon name type).text { session := new version } ↔
      s.clips type = (new version).clips type := by
  have hname : ((s.ammo? type).getD {}).name = (((new version).ammo? type).getD {}).name := by
    have hget : ∀ o : Option Ammo, (o.getD {}).name = (o.map (·.name)).getD ({} : Ammo).name := by
      intro o
      cases o <;> rfl
    rw [hget, hget, hs.ammo_name type]
    rfl
  unfold Benefit.text
  dsimp only
  rw [String.append_right_inj]
  exact Benefit.ammoText_eq_iff 2 hname

/-! ### The whole -/

/-- What a thing gives, as clauses. -/
def gift (v : View) (t : Thing) : List Clause := ((Pickup.ofThing? v t).map (Pickup.clauses v)).getD []

/-- The definition of an unmodified thing has everything but its state lists and what it gives in common with
that of the unpatched game. -/
theorem clauses_eq_new (hs : Reachable s) (version : Int) (hid : s.things.get? id = none)
    (hbase : Baseline.thing? id = some t) :
    ∃ front middle rear, ∀ b,
      ThingDefinition.clauses { session := s } id t b =
        front ++ ThingDefinition.states b ++ (middle ++ gift { session := s } t ++ rear) ∧
      ThingDefinition.clauses { session := new version } id t b =
        front ++ ThingDefinition.states b ++ (middle ++ gift { session := new version } t ++ rear) := by
  have halike := s.alike_new version
  have hinitial : (if id = ThingDefinition.player then [ThingDefinition.initialBenefit { session := s } t] else []) =
      if id = ThingDefinition.player then [ThingDefinition.initialBenefit { session := new version } t] else [] := by
    split
    · next hplayer => rw [initialBenefit_eq_new hs version (hplayer ▸ hid)]
    · rfl
  refine ⟨ThingDefinition.measures { session := new version } t
      ++ (if id = ThingDefinition.player then [ThingDefinition.initialBenefit { session := new version } t] else [])
      ++ ThingDefinition.sounds t,
    ThingDefinition.specials { session := new version } id t
      ++ ThingDefinition.attacks { session := new version } t
      ++ ThingDefinition.damage { session := new version } t,
    Definition.clauseFor "DROPITEM" (fun s => s) (ThingDefinition.drop? { session := new version } id t)
      ++ Definition.clauseFor "CASTORDER" toString (Cast.standard.place? id), fun b => ⟨?_, ?_⟩⟩
  · unfold ThingDefinition.clauses gift
    rw [measures_eq_new s version hbase, hinitial, specials_eq_new hs version hid hbase,
      ThingDefinition.attacks_eq halike (starts_within hs hid hbase), damage_eq_new hs version hid hbase,
      drop?_eq_new hs version hbase]
    simp only [List.append_assoc]
  · unfold ThingDefinition.clauses gift
    simp only [List.append_assoc]

end Session
end DoomPatch
