import DoomPatch.Proofs.Conversion.Journal
import DoomPatch.Proofs.Conversion.Whole
import DoomPatch.Proofs.Definition.Keys
import DoomPatch.Proofs.Definition.Special

/-!
# The specials that conversions write

The specials of a thing stand in one clause of its definition, with commas between them.  Reading the clause back gives
the specials: none of their names has a comma, and no other clause of a thing has the same key.

* `Block.listed` — the names that a definition lists under a key.
* `ThingDefinition.listed_special` — for a thing, these are its specials.
* `Press.find?_convertThing` — the definition that a conversion writes.
* `convertThing_specials` — what the specials in the text of a thing say about it.
-/

namespace DoomPatch

/-! ### Lists in clauses -/

/-- The items of a clause, which stand between commas. -/
def Clause.items (c : Clause) : List String := (c.value.toList.splitOn ',').map String.ofList

/-- The names that a definition lists under a key. -/
def Block.listed (b : Block) (key : String) : List String := (clausesUnder (· == key) b.clauses).flatMap Clause.items

/-- Items without commas are read back from the list of them. -/
theorem Clause.items_list (key : String) {names : List String} (hnames : names ≠ [])
    (hcommas : ∀ name ∈ names, ',' ∉ name.toList) : Clause.items ⟨key, Definition.list names⟩ = names := by
  have hvalue : (Definition.list names).toList = [','].intercalate (names.map String.toList) :=
    String.toList_intercalate
  have hsplit : (Definition.list names).toList.splitOn ',' = names.map String.toList := by
    rw [hvalue, List.splitOn_intercalate _ (by simpa using hcommas) (by simpa using hnames)]
  unfold items
  rw [hsplit, List.map_map]
  simp [Function.comp_def]

/-- No special has a comma in its name. -/
theorem Special.no_comma {v : View} {id : Int} {t : Thing} {name : String} (hname : name ∈ ofThing v id t) :
    ',' ∉ name.toList := by
  have hall : ∀ name ∈ ofFlags.map (·.2) ++ ["MONSTER", "DISLOYAL"] ++ conferred ++ ofExtendedFlags.map (·.2),
      ',' ∉ name.toList := by decide
  refine hall name ?_
  rw [mem_ofThing_iff, mem_names_iff, mem_names_iff, mem_ofMonster_iff] at hname
  simp only [List.mem_append]
  rcases hname with ⟨bit, hbit, -⟩ | ⟨-, hmonster⟩ | hidentity | ⟨bit, hbit, -⟩
  · exact .inl (.inl (.inl (List.mem_map.2 ⟨_, hbit, rfl⟩)))
  · exact .inl (.inl (.inr (List.mem_pair.2 (hmonster.imp_right (·.1)))))
  · exact .inl (.inr (mem_conferred hidentity))
  · exact .inr (List.mem_map.2 ⟨_, hbit, rfl⟩)

namespace ThingDefinition

theorem special_ne_states (role : Role) : (s!"STATES({role.tag})" == "SPECIAL") = false := by
  have hsecond : s!"STATES({role.tag})".toList[1]? = some 'T' := by simp [toString]
  refine beq_eq_false_iff_ne.2 fun heq => ?_
  rw [heq] at hsecond
  exact absurd hsecond (by decide)

/-- The specials are the only clause with their key. -/
theorem clausesUnder_special (v : View) (id : Int) (t : Thing) (owner : String) (starts : List (Role × Int)) :
    clausesUnder (· == "SPECIAL") (clauses v id t (storyboard v owner starts)) =
      Definition.listClause "SPECIAL" (Special.ofThing v id t) := by
  have hmeasures : clausesUnder (· == "SPECIAL") (measures v t) = [] := by
    unfold measures
    simp (disch := decide) only [clausesUnder_append, clausesUnder_cons_of_other, clausesUnder_nil,
      clausesUnder_clauseIf, clausesUnder_clauseFor, List.append_nil]
  have hspecials : clausesUnder (· == "SPECIAL") (specials v id t) =
      Definition.listClause "SPECIAL" (Special.ofThing v id t) := by
    have hown : clausesUnder (· == "SPECIAL") (Definition.listClause "SPECIAL" (Special.ofThing v id t)) =
        Definition.listClause "SPECIAL" (Special.ofThing v id t) := by
      unfold Definition.listClause
      split <;> rfl
    unfold specials
    simp (disch := decide) only [clausesUnder_append, hown, clausesUnder_clauseIf, clausesUnder_clauseFor,
      List.append_nil]
  have hdamage : clausesUnder (· == "SPECIAL") (damage v t) = [] := by
    unfold damage
    rw [clausesUnder_append, clausesUnder_clauseFor (by decide), List.nil_append]
    split
    · simp (disch := decide) only [clausesUnder_cons_of_other, clausesUnder_nil]
    · rfl
  have hpickup : clausesUnder (· == "SPECIAL") (((Pickup.ofThing? v t).map (Pickup.clauses v)).getD []) = [] := by
    cases Pickup.ofThing? v t with
    | none => rfl
    | some p =>
        rw [Option.map_some, Option.getD_some]
        unfold Pickup.clauses
        simp (disch := decide) only [clausesUnder_append, clausesUnder_cons_of_other, clausesUnder_nil,
          clausesUnder_clauseFor, List.append_nil]
  rw [clausesUnder_clauses (by decide) special_ne_states, hmeasures, hspecials, hdamage, hpickup]
  simp

/-- A definition of a thing lists its specials. -/
theorem listed_special (v : View) (id : Int) (t : Thing) (owner : String) (starts : List (Role × Int)) :
    (block v id t (storyboard v owner starts)).listed "SPECIAL" = Special.ofThing v id t := by
  show (clausesUnder (· == "SPECIAL") (clauses v id t (storyboard v owner starts))).flatMap Clause.items = _
  rw [clausesUnder_special]
  unfold Definition.listClause
  split
  · next hempty => exact (List.isEmpty_iff.1 hempty).symm
  · next hsome =>
    rw [List.flatMap_singleton]
    exact Clause.items_list _ (by simpa using hsome) fun name hname => Special.no_comma hname

end ThingDefinition

/-- The definition of a thing that is neither a projectile nor half of the cube goes behind what the lump of things
holds. -/
theorem Press.find?_convertThing (p : Press) {s : Session} {id : Int} {t : Thing} (hthing : s.thing? id = some t)
    (hplain : t.isAttack = false) (hfire : id ≠ AttackEntry.spawnFire) :
    ∃ (q : Press) (d : Draft) (text : String) (starts : List (Role × Int)),
      Draft.ofThing { session := s } id = .ok d ∧
      d.block = ThingDefinition.block { session := s } id t
        (ThingDefinition.storyboard { session := s } t.ddfName starts) ∧
      p.convertThing { session := s } id = .ok q ∧ d.block.Spelled text ∧
      q.buffer.find? .things = some (p.buffer.contents .things ++ text) := by
  obtain ⟨starts, hshown⟩ := s.exists_shown id t
  obtain ⟨d, hthing', hkind, hattack, hblock, -⟩ := Session.exists_thing hshown
  have hdraft : Draft.ofThing { session := s } id = .ok d := by
    rw [Session.ofThing_of_thing? hthing, hplain, Draft.plainThing, if_neg hfire, hthing']
    rfl
  obtain ⟨text, hspelled, hlump⟩ := p.find?_publish_plain hattack (by rw [hkind]; decide)
  rw [hkind] at hlump
  exact ⟨p.publish d, d, text, starts, hdraft, hblock, by rw [convertThing, hdraft]; rfl, hspelled, hlump⟩

open Special in
/-- Converting a thing writes one definition, and the specials in it say what the thing is.  They are listed once each.
A name of the flag table is listed exactly if the thing bears the flag under the rules of old patches; `MONSTER` exactly
if the thing counts as a monster, and `DISLOYAL` exactly if in addition monsters of a kind fight each other; any other
name exactly if the type of the thing or one of its extended flags has it.  They stand in one clause, which is left out
exactly if there are none. -/
theorem convertThing_specials {s : Session} {id : Int} {t : Thing} (hthing : s.thing? id = some t)
    (hplain : t.isAttack = false) (hfire : id ≠ AttackEntry.spawnFire) (p : Press) :
    ∃ (q : Press) (d : Draft) (text : String),
      p.convertThing { session := s } id = .ok q ∧ Draft.ofThing { session := s } id = .ok d ∧ d.block.Spelled text ∧
      q.buffer.find? .things = some (p.buffer.contents .things ++ text) ∧
      (d.block.listed "SPECIAL").Nodup ∧
      (∀ e ∈ ofFlags, e.2 ∈ d.block.listed "SPECIAL" ↔ Bears t e.1) ∧
      ("MONSTER" ∈ d.block.listed "SPECIAL" ↔ Monster.Accepted s.reel t) ∧
      ("DISLOYAL" ∈ d.block.listed "SPECIAL" ↔ Monster.Accepted s.reel t ∧ s.misc.infight = 221) ∧
      (∀ name, name ∉ ofFlags.map (·.2) → name ∉ ["MONSTER", "DISLOYAL"] →
        (name ∈ d.block.listed "SPECIAL" ↔
          name ∈ ofIdentity id ∨ ∃ bit, (bit, name) ∈ ofExtendedFlags ∧ Word.hasAll t.mbf21 bit = true)) ∧
      (clausesUnder (· == "SPECIAL") d.block.clauses).length ≤ 1 ∧
      ((∀ c ∈ d.block.clauses, c.key ≠ "SPECIAL") ↔ d.block.listed "SPECIAL" = []) := by
  obtain ⟨q, d, text, starts, hdraft, hblock, hconverted, hspelled, hlump⟩ := p.find?_convertThing hthing hplain hfire
  refine ⟨q, d, text, hconverted, hdraft, hspelled, hlump, ?_⟩
  rw [hblock]
  have hclauses := ThingDefinition.clausesUnder_special { session := s } id t t.ddfName starts
  rw [ThingDefinition.listed_special]
  refine ⟨nodup_distinct _, fun e he => mem_ofThing_flag _ id t he, monster_mem_ofThing _ id t,
    disloyal_mem_ofThing _ id t, fun name hflags hmonster => mem_ofThing_other _ id t hflags hmonster, ?_, ?_⟩
  · show (clausesUnder (· == "SPECIAL") (ThingDefinition.clauses _ id t _)).length ≤ 1
    rw [hclauses, Definition.listClause]
    split <;> simp
  · -- No clause has the key exactly if the clauses with the key are none.
    have habsent : (∀ c ∈ ThingDefinition.clauses { session := s } id t
        (ThingDefinition.storyboard { session := s } t.ddfName starts), c.key ≠ "SPECIAL") ↔
        Definition.listClause "SPECIAL" (ofThing { session := s } id t) = [] := by
      rw [← hclauses, clausesUnder, List.filter_eq_nil_iff]
      simp
    refine habsent.trans ?_
    rw [Definition.listClause]
    split
    · next hempty => simpa using hempty
    · next hsome => simpa using hsome

open Special in
/-- A boss hung from the ceiling: one of its extended flags has a name that its type has too, and another becomes a
trigger and has none. -/
theorem convertThing_specials_hung :
    ∃ (s : Session) (t : Thing) (q : Press) (d : Draft) (text : String),
      s = Session.patched 21 [.thingField 21 "Mass" (-500), .thingExtendedBits 21 "RIP+RANGEHALF+MAP07BOSS1"] ∧
      s.thing? 21 = some t ∧ t.isAttack = false ∧ Press.convertThing {} { session := s } 21 = .ok q ∧
      Draft.ofThing { session := s } 21 = .ok d ∧ d.block.Spelled text ∧
      q.buffer.find? .things = some (LumpKind.things.header ++ text) ∧ (d.block.listed "SPECIAL").Nodup ∧
      (∀ name ∈ ["SPAWNCEILING", "MONSTER", "TRIGGER_HAPPY", "BOSSMAN", "TUNNEL"],
        name ∈ d.block.listed "SPECIAL") ∧
      ∀ name ∈ ["BOUNCE", "DISLOYAL"], name ∉ d.block.listed "SPECIAL" := by
  let s := Session.patched 21 [.thingField 21 "Mass" (-500), .thingExtendedBits 21 "RIP+RANGEHALF+MAP07BOSS1"]
  have hcheck : ((s.thing? 21).any fun t => !t.isAttack && t.mass < 0 && t.has ThingFlag.countKill &&
      !t.has ThingFlag.bounces && Word.hasAll t.mbf21 ExtendedFlag.rip && 0 < t.doomedNum && t.player == 0) = true := by
    set_option maxRecDepth 4000 in decide
  obtain ⟨t, hthing, hrecord⟩ := (Option.any_eq_true ..).1 hcheck
  simp only [Bool.and_eq_true, Bool.not_eq_true', decide_eq_true_eq, beq_iff_eq] at hrecord
  obtain ⟨⟨⟨⟨⟨⟨hplain, hmass⟩, hkill⟩, hbounce⟩, hrip⟩, hplaced⟩, hplayer⟩ := hrecord
  have hinfight : s.misc.infight ≠ 221 := by decide
  obtain ⟨q, d, text, hconverted, hdraft, hspelled, hlump, hnodup, hflags, hmonster, hdisloyal, hother, -, -⟩ :=
    convertThing_specials hthing hplain (by decide) {}
  refine ⟨s, t, q, d, text, rfl, hthing, hplain, hconverted, hdraft, hspelled, hlump, hnodup, ?_, ?_⟩
  · simp only [List.forall_mem_cons]
    exact ⟨(hflags (ThingFlag.spawnCeiling, "SPAWNCEILING") (by decide)).2 (.inr (.inl ⟨hmass, .inl rfl⟩)),
      hmonster.2 ⟨hplaced, hplain, hplayer, .inl hkill⟩,
      (hother "TRIGGER_HAPPY" (by decide) (by decide)).2 (.inl (by decide)),
      (hother "BOSSMAN" (by decide) (by decide)).2 (.inl (by decide)),
      (hother "TUNNEL" (by decide) (by decide)).2 (.inr ⟨ExtendedFlag.rip, by decide, hrip⟩), List.forall_mem_nil _⟩
  · simp only [List.forall_mem_cons]
    refine ⟨?_, fun hname => hinfight (hdisloyal.1 hname).2, List.forall_mem_nil _⟩
    rw [hflags (ThingFlag.bounces, "BOUNCE") (by decide)]
    rintro (hbounces | ⟨-, hbit⟩ | ⟨hbounces, -⟩)
    · simp [hbounce] at hbounces
    · exact absurd hbit (by decide)
    · simp [hbounce] at hbounces

end DoomPatch
