import DoomPatch.Definition.Thing

/-!
# Clauses under given keys

The clauses of a definition are put together from parts, and most parts have fixed keys.  Which clauses have a key of a
given kind can thus be told part by part.

* `clausesUnder` — the clauses whose keys pass a test, with a lemma for each way to make clauses.
* `Storyboard.clausesUnder_states` — state lists have no keys but their own.
* `ThingDefinition.clausesUnder_clauses` — the parts of the definition of a thing that are looked into.
-/

namespace DoomPatch

/-- The clauses whose keys pass a test. -/
def clausesUnder (test : String → Bool) (cs : List Clause) : List Clause := cs.filter fun c => test c.key

section Parts

variable {test : String → Bool} {key : String}

theorem clausesUnder_nil : clausesUnder test [] = [] := rfl

theorem clausesUnder_append (cs cs' : List Clause) :
    clausesUnder test (cs ++ cs') = clausesUnder test cs ++ clausesUnder test cs' :=
  List.filter_append ..

theorem clausesUnder_cons (hkey : test key = true) (value : String) (cs : List Clause) :
    clausesUnder test (⟨key, value⟩ :: cs) = ⟨key, value⟩ :: clausesUnder test cs :=
  List.filter_cons_of_pos hkey

theorem clausesUnder_cons_of_other (hkey : test key = false) (value : String) (cs : List Clause) :
    clausesUnder test (⟨key, value⟩ :: cs) = clausesUnder test cs :=
  List.filter_cons_of_neg (Bool.eq_false_iff.1 hkey)

theorem clausesUnder_clauseIf (hkey : test key = false) (holds : Bool) (value : String) :
    clausesUnder test (Definition.clauseIf holds key value) = [] := by
  cases holds
  · rfl
  · exact clausesUnder_cons_of_other hkey value []

theorem clausesUnder_clauseFor (hkey : test key = false) {α : Type} (form : α → String) (a : Option α) :
    clausesUnder test (Definition.clauseFor key form a) = [] := by
  cases a
  · rfl
  · exact clausesUnder_cons_of_other hkey _ []

theorem clausesUnder_listClause (hkey : test key = false) (items : List String) :
    clausesUnder test (Definition.listClause key items) = [] := by
  cases items
  · rfl
  · exact clausesUnder_cons_of_other hkey _ []

theorem clausesUnder_soundClause (hkey : test key = false) (id : Int) :
    clausesUnder test (ThingDefinition.soundClause key id) = [] :=
  clausesUnder_clauseIf hkey _ _

/-- State lists have the keys of roles. -/
theorem Storyboard.clausesUnder_states (htest : ∀ role : Role, test s!"STATES({role.tag})" = false) (v : View)
    (act : Int → Frame → Action) (groups : Animation) :
    clausesUnder test (ofAnimation v act groups).states = [] := by
  refine List.filter_eq_nil_iff.2 fun c hc => Bool.eq_false_iff.1 ?_
  obtain ⟨e, he, rfl⟩ := List.mem_map.1 hc
  obtain ⟨g, -, he⟩ := List.mem_filterMap.1 he
  unfold Display.states? at he
  split at he
  · cases he
  · split at he
    · cases he
    · cases he
      exact htest g.role

namespace ThingDefinition

theorem clausesUnder_states (htest : ∀ role : Role, test s!"STATES({role.tag})" = false) (v : View) (owner : String)
    (starts : List (Role × Int)) : clausesUnder test (states (storyboard v owner starts)) = [] := by
  unfold states
  split
  · exact clausesUnder_cons_of_other (htest .spawn) _ []
  · exact Storyboard.clausesUnder_states htest v _ _

/-- The keys of what a thing starts with, sounds like, strikes with and drops, and of its place in the finale. -/
def sideKeys : List String :=
  ["INITIAL_BENEFIT", "SIGHTING_SOUND", "STARTCOMBAT_SOUND", "PAIN_SOUND", "DEATH_SOUND", "ACTIVE_SOUND", "RIP_SOUND",
    "CLOSE_ATTACK", "RANGE_ATTACK", "SPARE_ATTACK", "DROPITEM", "CASTORDER"]

/-- Under other keys a thing has only measures, specials, damage and what it gives. -/
theorem clausesUnder_clauses (hside : ∀ key ∈ sideKeys, test key = false)
    (hstates : ∀ role : Role, test s!"STATES({role.tag})" = false) (v : View) (id : Int) (t : Thing) (owner : String)
    (starts : List (Role × Int)) :
    clausesUnder test (clauses v id t (storyboard v owner starts)) =
      clausesUnder test (measures v t) ++ clausesUnder test (specials v id t) ++ clausesUnder test (damage v t) ++
        clausesUnder test (((Pickup.ofThing? v t).map (Pickup.clauses v)).getD []) := by
  have hbenefit : clausesUnder test (if id = player then [initialBenefit v t] else []) = [] := by
    split
    · exact clausesUnder_cons_of_other (hside _ (by decide)) _ []
    · rfl
  have hsounds : clausesUnder test (sounds t) = [] := by
    unfold sounds
    simp (disch := exact hside _ (by decide)) only [clausesUnder_append, clausesUnder_soundClause, List.append_nil]
  have hattacks : clausesUnder test (attacks v t) = [] := by
    unfold attacks
    simp (disch := exact hside _ (by decide)) only [clausesUnder_append, clausesUnder_clauseFor, List.append_nil]
  unfold clauses
  simp (disch := exact hside _ (by decide)) only [clausesUnder_append, hbenefit, hsounds, hattacks,
    clausesUnder_states hstates, clausesUnder_clauseFor, List.append_nil]

end ThingDefinition
end Parts
end DoomPatch
