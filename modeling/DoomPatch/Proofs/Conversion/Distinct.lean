import Mathlib.Data.List.Nodup
import DoomPatch.Proofs.Conversion.Journal
import DoomPatch.Proofs.Conversion.Whole
import DoomPatch.Proofs.SortedMap

/-!
# No lump defines a name twice

Converting everything on an empty press defines every name of a lump once: things and weapons are defined by number and
different numbers have different names, attacks are written only under names that are not used, and sounds and messages
are listed by key.

* `Press.blocksOf_publishAllBlocks` — outside of the lump of attacks drafts give their definitions in order.
* `Named.nodup_things`, `Named.nodup_weapons`, `Named.nodup_sounds`, `nodup_refs` — the names within each kind.
* `Reachable.names_distinct` — the names of all definitions of a lump are different.
-/

namespace DoomPatch

namespace Press

/-- Outside of the lump of attacks a draft gives its definition, whatever names are used. -/
theorem blocksOf_publishBlocks (p : Press) {d : Draft} (hfits : d.Fits) {k : LumpKind} (hk : k ≠ .attacks) :
    blocksOf k (p.publishBlocks d) = if d.kind = k then [d.block] else [] := by
  have hdraft : ∀ p : Press, blocksOf k (p.draftBlocks d) = if d.kind = k then [d.block] else [] := by
    intro p
    unfold draftBlocks
    rw [blocksOf_cons, blocksOf_map, if_neg (Ne.symm hk)]
  unfold publishBlocks
  cases hattack : d.attack with
  | none => exact hdraft p
  | some id =>
      have hkind : d.kind = .attacks := hfits (by rw [hattack]; rfl)
      dsimp only
      split
      · exact hdraft _
      · rw [if_neg fun h => hk (h.symm.trans hkind)]
        rfl

theorem blocksOf_publishAllBlocks (p : Press) {ds : List Draft} (hfits : ∀ d ∈ ds, d.Fits) {k : LumpKind}
    (hk : k ≠ .attacks) :
    blocksOf k (p.publishAllBlocks (ds.map .ok)) = (ds.filter fun d => d.kind == k).map (·.block) := by
  induction ds generalizing p with
  | nil => rfl
  | cons d ds ih =>
      rw [List.map_cons, publishAllBlocks, blocksOf_append, p.blocksOf_publishBlocks (hfits d List.mem_cons_self) hk,
        ih (p.publish d) fun d' hd' => hfits d' (List.mem_cons_of_mem d hd'), List.filter_cons]
      by_cases hkind : d.kind = k <;> simp [hkind]

end Press

namespace Session

variable {s : Session} {id : Int}

/-! ### Things and weapons -/

/-- The name of a weapon of the tables. -/
def weaponName (id : Int) : String := ((Baseline.weapon? id).map (·.name)).getD ""

theorem ddfName_of_not_isAttack {t : Thing} (hplain : t.isAttack = false) : t.ddfName = t.name := by
  unfold Thing.ddfName
  split
  · next rest heq =>
    unfold Thing.isAttack at hplain
    rw [heq] at hplain
    simp at hplain
  · rfl

theorem block_name_thing {v : View} {t : Thing} {d : Draft} (hd : Draft.thing v id t = .ok d) :
    d.block.name = t.ddfName := by
  unfold Draft.thing at hd
  split at hd
  · cases hd
  · cases hd
    rfl

/-- Things are defined under the names of their numbers. -/
theorem Named.block_name_plainThing (hs : s.Named) (hid : id ∈ s.plainIds) {d : Draft}
    (hd : Draft.plainThing { session := s } id (Conversion.record { session := s } id) = .ok d) :
    d.block.name = Baseline.thingName id := by
  obtain ⟨hmodified, hplain, hfire⟩ := mem_plainIds.1 hid
  obtain ⟨t, hthing, hrecord⟩ := exists_record_of_mem_keys ((SortedMap.mem_keys_iff _ _).2 hmodified)
  unfold Draft.plainThing at hd
  rw [if_neg hfire, hrecord] at hd
  rw [block_name_thing hd, ddfName_of_not_isAttack (hplain t hthing), (hs.law_of_thing? hthing).1]

theorem Named.block_name_ofWeapon (hs : s.Named) {d : Draft} (hd : Draft.ofWeapon { session := s } id = .ok d) :
    d.block.name = weaponName id := by
  unfold Draft.ofWeapon at hd
  cases hweapon : s.weapon? id with
  | none =>
      rw [hweapon] at hd
      cases hd
  | some w =>
      obtain ⟨w₀, hbase, hname⟩ := hs.exists_weapon hweapon
      rw [hweapon] at hd
      cases hd
      unfold weaponName
      rw [hbase]
      exact hname.symm

/-- The drafts of things define different names. -/
theorem Named.nodup_things (hs : s.Named) {ds : List Draft} (hds : ds.map .ok = Conversion.things { session := s }) :
    (ds.map (·.block.name)).Nodup := by
  have hnames : ds.map (·.block.name) = s.plainIds.map Baseline.thingName :=
    Draft.map_of_map_ok hds fun id hid d hd => hs.block_name_plainThing hid hd
  have hbounds : ∀ id ∈ s.plainIds, 0 ≤ id ∧ id ≤ Limits.extendedMax := by
    intro id hid
    obtain ⟨t, hthing, -⟩ := exists_record_of_mem_keys ((SortedMap.mem_keys_iff _ _).2 (mem_plainIds.1 hid).1)
    exact (hs.law_of_thing? hthing).2
  have hids : s.plainIds.Nodup := s.things.nodup_keys.filter _
  rw [hnames]
  exact hids.map_on fun i hi j hj heq => Baseline.thingName_inj (hbounds i hi) (hbounds j hj) heq

/-- The drafts of weapons define different names. -/
theorem Named.nodup_weapons (hs : s.Named) {ds : List Draft} (hds : ds.map .ok = Conversion.weapons { session := s }) :
    (ds.map (·.block.name)).Nodup := by
  have hnames : ds.map (·.block.name) = s.weapons.keys.map weaponName :=
    Draft.map_of_map_ok hds fun id _ d hd => hs.block_name_ofWeapon hd
  have htable : ∀ id ∈ s.weapons.keys, ∃ w, Baseline.weapon? id = some w := by
    intro id hid
    obtain ⟨w, hget⟩ := Option.isSome_iff_exists.1 ((SortedMap.mem_keys_iff _ _).1 hid)
    obtain ⟨w₀, hbase, -⟩ := hs.exists_weapon (weapon?_of_get? hget)
    exact ⟨w₀, hbase⟩
  rw [hnames]
  refine s.weapons.nodup_keys.map_on fun i hi j hj heq => ?_
  obtain ⟨a, ha⟩ := htable i hi
  obtain ⟨b, hb⟩ := htable j hj
  unfold weaponName at heq
  rw [ha, hb] at heq
  exact Baseline.weapon?_inj ha hb heq

/-! ### Sounds and messages -/

theorem Named.nodup_sounds (hs : s.Named) : ((SoundDefinition.all s).map (·.name)).Nodup := by
  have hnames : (SoundDefinition.all s).map (·.name) = (s.sounds.keys.filter fun id => id != 0).map View.soundRef := by
    unfold SoundDefinition.all SortedMap.keys
    rw [List.map_map, List.filter_map, List.map_map]
    rfl
  have hbounds : ∀ id ∈ s.sounds.keys.filter fun id => id != 0, 0 ≤ id ∧ id ≤ Limits.extendedMax := by
    intro id hid
    obtain ⟨snd, hget⟩ := Option.isSome_iff_exists.1 ((SortedMap.mem_keys_iff _ _).1 (List.mem_filter.1 hid).1)
    exact hs.fair.sounds id snd hget
  rw [hnames]
  refine (s.sounds.nodup_keys.filter _).map_on fun i hi j hj heq => ?_
  exact Baseline.soundRef_inj (hbounds i hi) (hbounds j hj) heq

theorem nodup_refs (s : Session) : ((LanguageDefinition.block s.texts.entries).clauses.map (·.key)).Nodup := by
  have hkeys : (LanguageDefinition.block s.texts.entries).clauses.map (·.key) = s.texts.keys := by
    unfold LanguageDefinition.block SortedMap.keys
    rw [List.map_map]
    rfl
  rw [hkeys]
  exact s.texts.nodup_keys

/-! ### All lumps -/

/-- Outside of the lump of attacks, what is written is the definitions of drafts, of sounds, and at most one block of
messages. -/
theorem blocksOf_convertAllBlocks {ds : List Draft} (hdrafts : Conversion.drafts { session := s } = ds.map .ok)
    (hfits : ∀ d ∈ ds, d.Fits) {k : LumpKind} (hk : k ≠ .attacks) :
    blocksOf k (Press.convertAllBlocks {} { session := s }) =
      (ds.filter fun d => d.kind == k).map (·.block) ++
        ((if .sounds = k then SoundDefinition.all s else []) ++
          if s.texts.isEmpty then [] else if .language = k then [LanguageDefinition.block s.texts.entries] else []) := by
  obtain ⟨q, -, hq, -, -⟩ := Press.publishAll_emits {} hfits
  have hmessages : blocksOf k (if s.texts.isEmpty then [] else
      [(.language, LanguageDefinition.block s.texts.entries)]) =
        if s.texts.isEmpty then [] else if .language = k then [LanguageDefinition.block s.texts.entries] else [] := by
    split
    · rfl
    · rw [blocksOf_cons, blocksOf_nil]
  unfold Press.convertAllBlocks
  rw [hdrafts, hq]
  dsimp only
  rw [blocksOf_append, blocksOf_append, Press.blocksOf_publishAllBlocks {} hfits hk, blocksOf_map, hmessages,
    List.map_id']

/-- Converting everything in a session that can be reached never defines a name of a lump twice: what is written to
each lump is a list of definitions with different names, each name in brackets on a line of its own, and the references
that begin the lines of messages are different too. -/
theorem Reachable.names_distinct (hs : Reachable s) :
    ∃ p log, Press.convertAll {} { session := s } = (p, none) ∧ log = Press.convertAllBlocks {} { session := s } ∧
      (∀ k, k ≠ .triggers → ∃ texts, List.Forall₂ Block.Spelled (blocksOf k log) texts ∧
        (p.buffer.find? k).getD k.header = k.header ++ String.join texts) ∧
      (∀ k, ((blocksOf k log).map (·.name)).Nodup) ∧
      ∀ b ∈ blocksOf .language log, (b.clauses.map (·.key)).Nodup := by
  obtain ⟨ds, hdrafts, hfits, hthings, hweapons, hnone⟩ := hs.exists_sorted_drafts
  obtain ⟨p, pieces, hp, -, -⟩ := Press.convertAll_emits {} hdrafts hfits
  have hjournal := Press.journal_nil.convertAll hs.named.tidy
  rw [hp, List.nil_append] at hjournal
  have hmessages : blocksOf .language (Press.convertAllBlocks {} { session := s }) =
      if s.texts.isEmpty then [] else [LanguageDefinition.block s.texts.entries] := by
    rw [blocksOf_convertAllBlocks hdrafts hfits (by decide), hnone .language (by decide) (by decide) (by decide)]
    simp
  refine ⟨p, _, hp, rfl, hjournal.wrote, fun k => ?_, ?_⟩
  · by_cases hk : k = .attacks
    · subst hk
      rw [← hjournal.used]
      exact hjournal.distinct
    · have hblocks := blocksOf_convertAllBlocks hdrafts hfits hk
      cases k with
      | things =>
          rw [hblocks]
          simpa [Function.comp_def] using hs.named.nodup_things hthings
      | attacks => exact absurd rfl hk
      | weapons =>
          rw [hblocks]
          simpa [Function.comp_def] using hs.named.nodup_weapons hweapons
      | sounds =>
          rw [hblocks]
          simpa [hnone] using hs.named.nodup_sounds
      | language =>
          rw [hmessages]
          split <;> simp
      | triggers | other n =>
          rw [hblocks]
          simp [hnone]
  · intro b hb
    rw [hmessages] at hb
    split at hb
    · cases hb
    · rw [List.mem_singleton.1 hb]
      exact s.nodup_refs

/-- A patch with things and a sound beyond the tables, a projectile, a weapon and two messages. -/
theorem names_distinct_extended :
    ∃ s p log, s = patched 2021 [.thingField 200 "Hit points" 10, .thingField 150 "Speed" 1, .thingField 31 "Speed" 20,
        .weaponField 1 "Ammo type" 1, .soundField 700 "Value" 1, .soundField 3 "Value" 1, .phrase "GOTARMOR" "A",
        .phrase "GOTMEGA" "B"] ∧
      (∀ id ∈ [200, 150, 31], s.things.contains id = true) ∧ (∀ id ∈ [700, 3], s.sounds.contains id = true) ∧
      Press.convertAll {} { session := s } = (p, none) ∧ log = Press.convertAllBlocks {} { session := s } ∧
      (∃ texts, List.Forall₂ Block.Spelled (blocksOf .things log) texts ∧
        (p.buffer.find? .things).getD LumpKind.things.header = LumpKind.things.header ++ String.join texts) ∧
      (∀ k, ((blocksOf k log).map (·.name)).Nodup) ∧
      ∀ b ∈ blocksOf .language log, (b.clauses.map (·.key)).Nodup := by
  have hs := reachable_patched 2021 [.thingField 200 "Hit points" 10, .thingField 150 "Speed" 1,
    .thingField 31 "Speed" 20, .weaponField 1 "Ammo type" 1, .soundField 700 "Value" 1, .soundField 3 "Value" 1,
    .phrase "GOTARMOR" "A", .phrase "GOTMEGA" "B"]
  obtain ⟨p, log, hconverted, hlog, hspelled, hnames, hrefs⟩ := hs.names_distinct
  exact ⟨_, p, log, rfl, by decide, by decide, hconverted, hlog, hspelled .things (by decide), hnames, hrefs⟩

end Session
end DoomPatch
