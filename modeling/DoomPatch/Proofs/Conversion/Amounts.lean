import DoomPatch.Proofs.Conversion.Journal
import DoomPatch.Proofs.Conversion.Whole
import DoomPatch.Proofs.Definition.Amounts
import DoomPatch.Proofs.Session.Chronicle
import DoomPatch.Proofs.Session.Integrity

/-!
# The amounts that conversions write

Masses are words, because edits write words, and the room for ammunition is bounded.  So the definitions of a session
have the exact amounts apart from products that are no words, and apart from the mass of which the absolute value is no
word.

* `Chronicle.fits_mass`, `Reachable.fits_limits` — masses, and twice the room for ammunition, are words.
* `Draft.MadeOf.workedOf_block`, `Draft.worked_of_mem_scratches` — the amounts in definitions and in their scratch
  attacks.
* `amounts_exact_iff` — which definitions have the exact amounts.
-/

namespace DoomPatch

/-! ### Words -/

/-- The number that an edit writes is a word. -/
def Edit.Fits : Edit → Prop
  | .thingField _ _ v | .frameField _ _ v | .weaponField _ _ v | .ammoField _ _ v | .miscField _ _ v
  | .soundField _ _ v => Word.Fits v
  | _ => True

set_option maxRecDepth 4000 in
theorem Baseline.fits_mass {id : Int} {t : Thing} (hbase : thing? id = some t) : Word.Fits t.mass := by
  have hall : ∀ t ∈ things.toList, Word.Fits t.mass := by decide
  exact hall t (mem_of_at? hbase)

/-- Masses are words, if the edits write words. -/
theorem Session.Chronicle.fits_mass {log : List Edit} {s : Session} (hlog : Chronicle log s)
    (hwords : ∀ e ∈ log, e.Fits) {id : Int} {t : Thing} (hthing : s.thing? id = some t) : Word.Fits t.mass := by
  have hmass : t.mass = s.thingValue id .mass := by
    unfold thingValue
    rw [thingRecord_of_thing? hthing]
    rfl
  rw [hmass, hlog.thingValue_eq id .mass 0]
  cases hlast : log.findSome? (Edit.written? id .mass) with
  | none =>
      change Word.Fits ((Baseline.thing? id).getD _).mass
      cases hbase : Baseline.thing? id with
      | none => exact (by decide : Word.Fits 0)
      | some t₀ => exact Baseline.fits_mass hbase
  | some n =>
      obtain ⟨e, he, hn⟩ := List.exists_of_findSome?_eq_some hlast
      have hfits := hwords e he
      cases e with
      | thingField i field value =>
          rw [Edit.written?] at hn
          split at hn
          · cases hn
            exact hfits
          · cases hn
      | _ => simp [Edit.written?] at hn

namespace Draft

variable {v : View} {id : Int} {d : Draft}

/-- The thing that a definition takes its numbers from: the cube is defined as the half of it that flies. -/
def sourceId (id : Int) : Int := if id = AttackEntry.spawnFire then AttackEntry.spawnShot else id

/-- The clauses with amounts of the definition of a thing, written in a given way. -/
def worked (word : Int → Int) (v : View) (t : Thing) (d : Draft) : List Clause :=
  if d.kind = .attacks then AttackDefinition.worked word t else ThingDefinition.worked word v t

/-- The amounts in the definition of a thing. -/
def amounts (v : View) (t : Thing) (d : Draft) : List Int :=
  if d.kind = .attacks then AttackDefinition.amounts t else ThingDefinition.amounts v t

theorem worked_eq_iff (hlimits : ∀ a ∈ v.ammoTypes, Word.Fits (2 * a.max)) (t : Thing) (d : Draft) :
    d.worked Word.wrap64 v t = d.worked (fun n => n) v t ↔ ∀ n ∈ d.amounts v t, Word.Fits n := by
  unfold worked amounts
  split
  · exact AttackDefinition.worked_eq_iff t
  · exact ThingDefinition.worked_eq_iff hlimits t

/-- What a definition of a thing is made of: clauses and animations of one thing. -/
inductive MadeOf (v : View) (id : Int) (t : Thing) (d : Draft) (starts : List (Role × Int)) : Prop
  | thing (hkind : d.kind = .things)
      (hblock : d.block = ThingDefinition.block v id t (ThingDefinition.storyboard v t.ddfName starts))
  | attack (hkind : d.kind = .attacks) (e : AttackEntry) (deathSound : Int)
      (hblock : d.block = AttackDefinition.block v e t deathSound (ThingDefinition.storyboard v t.ddfName starts))

theorem madeOf_cube (hd : cube v = .ok d) :
    ∃ t starts, v.thing? AttackEntry.spawnShot = some t ∧ MadeOf v id t d starts ∧
      d.scratches = (ThingDefinition.storyboard v t.ddfName starts).scratches := by
  unfold cube at hd
  split at hd
  · cases hd
  · cases hd
  · next shot fire hshot hfire =>
    cases hd
    exact ⟨shot, _, hshot, .attack rfl _ _ rfl, rfl⟩

theorem madeOf_of_ofThing (hd : ofThing v id = .ok d) :
    ∃ t starts, v.thing? (sourceId id) = some t ∧ MadeOf v id t d starts ∧
      d.scratches = (ThingDefinition.storyboard v t.ddfName starts).scratches := by
  unfold ofThing at hd
  cases hthing : v.thing? id with
  | none =>
      rw [hthing] at hd
      cases hd
  | some t =>
      rw [hthing] at hd
      dsimp only at hd
      split at hd
      · unfold attackThing at hd
        split at hd
        · next hshot =>
          have hsource : sourceId id = AttackEntry.spawnShot := by
            subst hshot
            decide
          rw [hsource]
          exact madeOf_cube hd
        · cases hentry : AttackEntry.ofThing? id with
          | none =>
              rw [hentry] at hd
              cases hd
          | some e =>
              rw [hentry] at hd
              cases hd
              have hfire : id ≠ AttackEntry.spawnFire := by
                rintro rfl
                cases hentry
              unfold sourceId
              rw [if_neg hfire]
              exact ⟨t, _, hthing, .attack rfl e _ rfl, rfl⟩
      · unfold plainThing at hd
        unfold sourceId
        split at hd
        · next hfire =>
          rw [if_pos hfire]
          exact madeOf_cube hd
        · next hfire =>
          rw [if_neg hfire]
          unfold thing at hd
          split at hd
          · cases hd
          · cases hd
            exact ⟨t, _, hthing, .thing rfl rfl, rfl⟩

/-- The definition of a thing has the clauses with amounts of the thing, worked out in words. -/
theorem MadeOf.workedOf_block {t : Thing} {starts : List (Role × Int)} (hmade : MadeOf v id t d starts)
    (hmass : Word.Fits t.mass) : workedOf d.block.clauses = d.worked Word.wrap64 v t := by
  unfold worked
  cases hmade with
  | thing hkind hblock =>
      rw [hkind, hblock, if_neg (by decide)]
      exact ThingDefinition.workedOf_clauses v id hmass _ _
  | attack hkind e deathSound hblock =>
      rw [hkind, hblock, if_pos rfl]
      unfold AttackDefinition.block
      rw [workedOf_append, AttackDefinition.workedOf_clauses]
      exact (congrArg _ (Storyboard.workedOf_states v _ _)).trans (List.append_nil _)

/-- The mass of a thing stands in its definition, unless that is one of an attack. -/
theorem mass_mem_of_worked {word : Int → Int} {t : Thing} (hworked : workedOf d.block.clauses = d.worked word v t)
    (hkind : d.kind ≠ .attacks) : ⟨"MASS", toString (word t.mass.natAbs)⟩ ∈ d.block.clauses := by
  have hmem : ⟨"MASS", toString (word t.mass.natAbs)⟩ ∈ workedOf d.block.clauses := by
    rw [hworked, worked, if_neg hkind]
    exact List.mem_append_left _ List.mem_cons_self
  exact (List.mem_filter.1 hmem).1

/-- The scratch attacks of a thing or weapon have the clauses with amounts of their frames, worked out in words. -/
theorem worked_of_mem_scratches (hd : ofThing v id = .ok d ∨ ofWeapon v id = .ok d) {a : Scratch}
    (ha : a ∈ d.scratches) :
    ∃ f p, v.session.frame? a.frame = some f ∧ CodePointer.ofAction? f.action = some p ∧
      workedOf a.block.clauses = Scratch.worked Word.wrap64 p f := by
  rcases hd with hd | hd
  · obtain ⟨t, starts, -, -, hscratches⟩ := madeOf_of_ofThing hd
    rw [hscratches] at ha
    exact Storyboard.worked_of_mem_scratches (fun id f => .inr ⟨_, rfl⟩) ha
  · unfold ofWeapon at hd
    split at hd
    · cases hd
    · next w hweapon =>
      cases hd
      refine Storyboard.worked_of_mem_scratches (fun id f => ?_) ha
      unfold WeaponDefinition.action
      split
      · exact .inl rfl
      · exact .inr ⟨_, rfl⟩

end Draft

namespace Session

variable {s : Session}

/-- A conversion of everything writes what things and weapons give on their own. -/
theorem Reachable.exists_of_mem_drafts (hs : Reachable s) {d : Draft}
    (hd : .ok d ∈ Conversion.drafts { session := s }) :
    ∃ id, Draft.ofThing { session := s } id = .ok d ∨ Draft.ofWeapon { session := s } id = .ok d := by
  unfold Conversion.drafts at hd
  rw [things_eq_map_ofThing, List.mem_append, List.mem_append, List.mem_append] at hd
  rcases hd with ((hd | hd) | hd) | hd
  · obtain ⟨id, -, hd⟩ := List.mem_map.1 hd
    exact ⟨id, .inl hd⟩
  · obtain ⟨id, hid, hd⟩ := List.mem_map.1 hd
    obtain ⟨hkey, htest⟩ := List.mem_filter.1 hid
    obtain ⟨t, hthing, hrecord⟩ := exists_record_of_mem_keys hkey
    rw [hrecord] at htest hd
    refine ⟨id, .inl ?_⟩
    rw [ofThing_of_thing? hthing, if_pos (Bool.and_eq_true_iff.1 htest).1, hd]
  · have hshot : (Baseline.thing? AttackEntry.spawnShot).isSome := Baseline.isSome_thing? (by decide)
    obtain ⟨t₀, hbase⟩ := Option.isSome_iff_exists.1 hshot
    obtain ⟨t, hthing, hname⟩ := hs.thing_name hbase
    have hattack : t.isAttack = true := by
      unfold Thing.isAttack
      rw [hname]
      exact isAttack_spawnShot hbase
    have hcube : Draft.ofThing { session := s } AttackEntry.spawnShot = Draft.cube { session := s } := by
      rw [ofThing_of_thing? hthing, if_pos hattack]
      exact if_pos rfl
    unfold Conversion.cubes at hd
    split at hd
    · exact ⟨AttackEntry.spawnShot, .inl (hcube.trans (List.mem_singleton.1 hd).symm)⟩
    · cases hd
  · obtain ⟨id, -, hd⟩ := List.mem_map.1 hd
    exact ⟨id, .inr hd⟩

/-- A thing that is no projectile and not half of the cube is defined as a thing. -/
theorem exists_ofThing {id : Int} {t : Thing} (hthing : s.thing? id = some t) (hplain : t.isAttack = false)
    (hfire : id ≠ AttackEntry.spawnFire) : ∃ d, Draft.ofThing { session := s } id = .ok d ∧ d.kind = .things := by
  obtain ⟨d, hd, hkind, -⟩ := s.exists_plainThing t hfire
  refine ⟨d, ?_, hkind⟩
  rw [ofThing_of_thing? hthing, hplain]
  exact hd

/-- Twice the room for ammunition is a word: the room itself is bounded. -/
theorem Reachable.fits_limits (hs : Reachable s) :
    ∀ a ∈ View.ammoTypes { session := s }, Word.Fits (2 * a.max) := by
  intro a ha
  obtain ⟨id, -, hammo⟩ := List.mem_filterMap.1 ha
  obtain ⟨versions, hhistory⟩ := reachable_iff_history.1 hs
  have hmax := (hhistory.proper fun v _ => Limits.le_raised v).2.ranged.ammoMax _ a hammo
  unfold Word.Fits
  omega

end Session

/-- **The amounts in definitions.**  In a session whose edits wrote words, conversions write the definitions of things
and weapons and of their scratch attacks into lumps, each as definitions are written down.  A definition of a thing has
the mass, the damage and the benefit of the thing that it takes its numbers from, and a scratch attack the damage of its
frame; all of these are worked out in words, so they are exact if and only if the amounts are words.  The mass thus is
exact unless it is the least word, whose sign stays; the greatest damage, if it is exact, is not below the least; and
the room that a backpack gives is always exact. -/
theorem amounts_exact_iff {log : List Edit} {s : Session} (hlog : Session.Chronicle log s)
    (hwords : ∀ e ∈ log, e.Fits) :
    let v : View := { session := s }
    (∃ q, Press.convertAll {} v = (q, none) ∧ Press.Wrote {} q (Press.convertAllBlocks {} v) ∧
      ∀ e ∈ Press.convertAllBlocks {} v, e.1 ≠ .sounds → e.1 ≠ .language →
        ∃ d, .ok d ∈ Conversion.drafts v ∧ d.Has e.2) ∧
    (∀ (p : Press) id d, (Draft.ofThing v id = .ok d → p.convertThing v id = .ok (p.publish d)) ∧
      (Draft.ofWeapon v id = .ok d → p.convertWeapon v id = .ok (p.publish d)) ∧
      p.Wrote (p.publish d) (p.publishBlocks d) ∧ ∀ e ∈ p.publishBlocks d, d.Has e.2) ∧
    (∀ d, .ok d ∈ Conversion.drafts v → ∃ id, Draft.ofThing v id = .ok d ∨ Draft.ofWeapon v id = .ok d) ∧
    (∀ id d, Draft.ofThing v id = .ok d → ∃ t, s.thing? (Draft.sourceId id) = some t ∧
      workedOf d.block.clauses = d.worked Word.wrap64 v t ∧
      (workedOf d.block.clauses = d.worked (fun n => n) v t ↔ ∀ n ∈ d.amounts v t, Word.Fits n)) ∧
    (∀ id d, Draft.ofThing v id = .ok d ∨ Draft.ofWeapon v id = .ok d → ∀ a ∈ d.scratches,
      ∃ f p, s.frame? a.frame = some f ∧ CodePointer.ofAction? f.action = some p ∧
        workedOf a.block.clauses = Scratch.worked Word.wrap64 p f ∧
        (workedOf a.block.clauses = Scratch.worked (fun n => n) p f ↔ ∀ n ∈ Scratch.amounts p f, Word.Fits n)) ∧
    (∀ id t, s.thing? id = some t → (Word.Fits t.mass.natAbs ↔ t.mass ≠ -9223372036854775808) ∧
      (t.mass = -9223372036854775808 → Word.wrap64 t.mass.natAbs = -9223372036854775808) ∧
      (0 < t.damage → Word.Fits (8 * t.damage) → t.damage ≤ Word.wrap64 (8 * t.damage))) ∧
    ∀ a ∈ v.ammoTypes, Word.Fits (2 * a.max) := by
  intro v
  have hs := hlog.reachable
  have hlimits := hs.fits_limits
  refine ⟨?_, ?_, fun d => hs.exists_of_mem_drafts, ?_, ?_, ?_, hlimits⟩
  · obtain ⟨ds, hdrafts, hfits, -⟩ := hs.exists_sorted_drafts
    obtain ⟨q, pieces, hq, -, -⟩ := Press.convertAll_emits {} hdrafts hfits
    have hjournal := Press.journal_nil.convertAll hs.named.tidy
    rw [hq, List.nil_append] at hjournal
    exact ⟨q, hq, hjournal.wrote, fun e => Press.exists_of_mem_convertAllBlocks⟩
  · intro p id d
    refine ⟨fun hd => ?_, fun hd => ?_, p.wrote_publish d, fun e => Press.has_of_mem_publishBlocks⟩
    · rw [Press.convertThing, hd]
      rfl
    · rw [Press.convertWeapon, hd]
      rfl
  · intro id d hd
    obtain ⟨t, starts, hthing, hmade, -⟩ := Draft.madeOf_of_ofThing hd
    rw [View.thing?_plain] at hthing
    have hworked := hmade.workedOf_block (hlog.fits_mass hwords hthing)
    refine ⟨t, hthing, hworked, ?_⟩
    rw [hworked]
    exact Draft.worked_eq_iff hlimits t d
  · intro id d hd a ha
    obtain ⟨f, p, hframe, hp, hworked⟩ := Draft.worked_of_mem_scratches hd ha
    refine ⟨f, p, hframe, hp, hworked, ?_⟩
    rw [hworked]
    exact Scratch.worked_eq_iff p f
  · intro id t hthing
    refine ⟨Word.fits_natAbs_iff (hlog.fits_mass hwords hthing), ?_, ?_⟩
    · intro hleast
      rw [hleast]
      decide
    · intro hpositive hdamage
      rw [Word.wrap64_of_fits hdamage]
      omega

/-- An imp with a negative mass is written with its absolute value. -/
theorem amounts_exact_iff_imp :
    let s := Session.patched 21 [.thingField 11 "Mass" (-100)]
    Session.Chronicle [.thingField 11 "Mass" (-100)] s ∧
      (∀ e ∈ ([.thingField 11 "Mass" (-100)] : List Edit), e.Fits) ∧
      ∃ d, Draft.ofThing { session := s } 11 = .ok d ∧ ⟨"MASS", "100"⟩ ∈ d.block.clauses := by
  intro s
  have hlog : Session.Chronicle [.thingField 11 "Mass" (-100)] s :=
    (Session.Chronicle.new 21).accepted rfl (by decide)
  have hwords : ∀ e ∈ ([.thingField 11 "Mass" (-100)] : List Edit), e.Fits := by
    intro e he
    rw [List.mem_singleton.1 he]
    exact (by decide : Word.Fits (-100))
  have hread : (s.thing? 11).map (fun t => (t.mass, t.isAttack)) = some (-100, false) := by
    set_option maxRecDepth 4000 in decide
  obtain ⟨t, hthing, hread⟩ := Option.map_eq_some_iff.1 hread
  have hnegative : t.mass = -100 := congrArg Prod.fst hread
  obtain ⟨d, hd, hkind⟩ := Session.exists_ofThing hthing (congrArg Prod.snd hread) (by decide)
  obtain ⟨t', hthing', hworked, -⟩ := (amounts_exact_iff hlog hwords).2.2.2.1 11 d hd
  obtain rfl : t = t' := Option.some.inj (hthing.symm.trans hthing')
  have hmass := Draft.mass_mem_of_worked hworked (by rw [hkind]; decide)
  rw [hnegative] at hmass
  exact ⟨hlog, hwords, d, hd, hmass⟩

/-- The least word as a mass is written with its sign. -/
theorem least_mass_keeps_sign :
    let s := Session.patched 21 [.thingField 11 "Mass" (-9223372036854775808)]
    s.Reachable ∧ ∃ t d, s.thing? 11 = some t ∧ t.mass = -9223372036854775808 ∧
      toString (t.mass.natAbs : Int) = "9223372036854775808" ∧
      Draft.ofThing { session := s } 11 = .ok d ∧ ⟨"MASS", "-9223372036854775808"⟩ ∈ d.block.clauses := by
  intro s
  have hread : (s.thing? 11).map (fun t => (t.mass, t.isAttack)) = some (-9223372036854775808, false) := by
    set_option maxRecDepth 4000 in decide
  obtain ⟨t, hthing, hread⟩ := Option.map_eq_some_iff.1 hread
  have hleast : t.mass = -9223372036854775808 := congrArg Prod.fst hread
  obtain ⟨d, hd, hkind⟩ := Session.exists_ofThing hthing (congrArg Prod.snd hread) (by decide)
  obtain ⟨t', starts, hthing', hmade, -⟩ := Draft.madeOf_of_ofThing hd
  obtain rfl : t = t' := Option.some.inj (hthing.symm.trans ((View.thing?_plain s 11).symm.trans hthing'))
  have hmass := Draft.mass_mem_of_worked (hmade.workedOf_block (by rw [hleast]; decide)) (by rw [hkind]; decide)
  rw [hleast] at hmass
  refine ⟨Session.reachable_patched _ _, t, d, hthing, hleast, ?_, hd, hmass⟩
  rw [hleast]
  decide

end DoomPatch
