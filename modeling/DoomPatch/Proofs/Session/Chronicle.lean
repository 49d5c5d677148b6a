import DoomPatch.Proofs.Session.Footprint

/-!
# The edits behind a session

What a session holds was written by edits that were carried out since the last reset.  A chronicle lists them, the
latest first; edits that were refused are not part of it.  A field of a thing then has the number that the last edit
wrote to it, however many edits of other fields, things and global values came between.

* `Chronicle`, `reachable_iff_chronicle` — the edits behind a session, and that every session has them.
* `Chronicle.induct` — what the changes keep that edits come down to, along the chronicle.
* `Edit.written?`, `Edit.isSome_written?` — the number that an edit writes to a field of a thing.
* `thingValue_carry` — one change writes that number, or leaves the one there was.
* `Chronicle.thingValue_eq` — a field has the last number that was written to it, or that of the table.
-/

namespace DoomPatch

/-! ### Chronicles -/

namespace Session

variable {s s' : Session} {e : Edit} {log : List Edit}

/-- The edits that were carried out since the last reset, the latest first. -/
inductive Chronicle : List Edit → Session → Prop
  | new (version : Int) : Chronicle [] (new version)
  | apply {log : List Edit} {s s' : Session} {e : Edit} (hlog : Chronicle log s) (happly : s.apply e = .ok s') :
      Chronicle (if s.accepts e then e :: log else log) s'
  | setVersion {log : List Edit} {s : Session} (hlog : Chronicle log s) (version : Int) :
      Chronicle log (s.setVersion version)
  | reset {log : List Edit} {s : Session} (hlog : Chronicle log s) : Chronicle [] s.reset

theorem Chronicle.reachable (hlog : Chronicle log s) : s.Reachable := by
  induction hlog with
  | new version => exact .new version
  | apply hlog happly ih => exact ih.apply happly
  | setVersion hlog version ih => exact ih.setVersion version
  | reset hlog ih => exact ih.reset

/-- The sessions with a chronicle are those that can be reached. -/
theorem reachable_iff_chronicle : s.Reachable ↔ ∃ log, Chronicle log s := by
  constructor
  · intro hs
    induction hs with
    | new version => exact ⟨_, .new version⟩
    | apply hs happly ih =>
        obtain ⟨log, hlog⟩ := ih
        exact ⟨_, hlog.apply happly⟩
    | setVersion hs version ih =>
        obtain ⟨log, hlog⟩ := ih
        exact ⟨_, hlog.setVersion version⟩
    | reset hs ih =>
        obtain ⟨log, hlog⟩ := ih
        exact ⟨_, hlog.reset⟩
  · rintro ⟨log, hlog⟩
    exact hlog.reachable

/-- An edit that is carried out comes to the front. -/
theorem Chronicle.accepted (hlog : Chronicle log s) (happly : s.apply e = .ok s') (haccepted : s.accepts e = true) :
    Chronicle (e :: log) s' := by
  have hafter := hlog.apply happly
  rwa [if_pos haccepted] at hafter

/-- Along a chronicle only the changes matter that edits come down to: warnings, versions and resets do not. -/
theorem Chronicle.induct {P : List Edit → Session → Prop} (Q : Edit → Change → Prop)
    (hdecides : ∀ (s : Session) (e : Edit), Decides (Q e) (s.changes e))
    (hnew : ∀ version, P [] (Session.new version))
    (hcarry : ∀ (log : List Edit) (s : Session) (e : Edit) (c : Change),
      P log s → Q e c → s.admits c = true → P (e :: log) (s.carry c))
    (hwarnings : ∀ (log : List Edit) (s : Session) (ws : List Warning), P log s → P log { s with warnings := ws })
    (hversion : ∀ (log : List Edit) (s : Session) (version : Int), P log s → P log (s.setVersion version))
    (hlog : Chronicle log s) : P log s := by
  induction hlog with
  | new version => exact hnew version
  | @apply log s s' e hlog happly ih =>
      rcases (hdecides s e).apply_cases happly with ⟨hrefused, ws, rfl⟩ | ⟨haccepted, ws, c, hc, hadmits, rfl⟩
      · rw [hrefused]
        exact hwarnings _ _ ws ih
      · rw [if_pos haccepted]
        exact hcarry _ _ _ c (hwarnings _ _ ws ih) hc hadmits
  | setVersion hlog version ih => exact hversion _ _ version ih
  | reset hlog ih => exact hnew _

/-- Changes that come down to one of a kind and to one of another kind come down to one of both. -/
theorem Decides.and {P Q : Change → Prop} {cs : List Change} (hP : Decides P cs) (hQ : Decides Q cs) :
    Decides (fun c => P c ∧ Q c) cs := by
  obtain ⟨ws, hcs | ⟨c, hc, hcs⟩⟩ := hP
  · exact ⟨ws, .inl hcs⟩
  · obtain ⟨ws', hcs' | ⟨c', hc', hcs'⟩⟩ := hQ
    · exact ⟨ws', .inl hcs'⟩
    · have hlast : [c] = [c'] := (List.append_inj' (hcs.symm.trans hcs') rfl).2
      cases hlast
      exact ⟨ws, .inr ⟨c, ⟨hc, hc'⟩, hcs⟩⟩

end Session

/-! ### What edits write to things -/

/-- The number that a field has after a number was written to it, whatever the record. -/
def ThingField.stored (f : ThingField) (v : Int) : Int := table.get f (table.store f v {})

theorem ThingField.get_store (f : ThingField) (v : Int) (t : Thing) : table.get f (table.store f v t) = f.stored v := by
  cases f <;> rfl

/-- The number that an edit writes to a field of a thing, if it writes one. -/
def Edit.written? (id : Int) (f : ThingField) : Edit → Option Int
  | .thingField i field value => if i = id ∧ ThingField.table.find? field = some f then some (f.stored value) else none
  | .thingBits i tokens => if i = id ∧ .flags = f then some (FlagExpression.parse .thing tokens).1.toNat else none
  | .thingExtendedBits i tokens =>
    if i = id ∧ .mbf21 = f then some (FlagExpression.parse .extended tokens).1.toNat else none
  | .miscField _ field value =>
    -- The hit points that the player starts with are kept in its record too.
    if MiscField.table.find? field = some .initialHealth ∧ Session.player = id ∧ .health = f then some value else none
  | _ => none

/-- An edit writes a number to a field exactly if the field is among its targets. -/
theorem Edit.isSome_written? (id : Int) (f : ThingField) (e : Edit) :
    (e.written? id f).isSome = decide (Target.field (.thing id f) ∈ e.targets) := by
  rw [Bool.eq_iff_iff, decide_eq_true_iff]
  cases e with
  | thingBits i tokens | thingExtendedBits i tokens => simp [written?, targets, @eq_comm _ i, @eq_comm _ f]
  | thingField i field value =>
      cases hfind : ThingField.table.find? field with
      | none => simp [written?, targets, cells, hfind]
      | some g => simp [written?, targets, cells, hfind, @eq_comm _ i, @eq_comm _ g]
  | miscField i field value =>
      cases hfind : MiscField.table.find? field with
      | none => simp [written?, targets, cells, hfind]
      | some g => cases g <;> simp [written?, targets, cells, hfind, MiscField.cells, @eq_comm _ id, @eq_comm _ f]
  | text old new =>
      simp only [written?, targets]
      split
      · simp
      · split <;> simp
  | _ => simp [written?, targets, cells]

/-- A change writes a number to a field of a thing. -/
def Change.WritesNumber (id : Int) (f : ThingField) (n : Int) : Change → Prop
  | .thing i _ alter => i = id ∧ ∀ t, ThingField.table.get f (alter t) = n
  | .misc field value => field = .initialHealth ∧ Session.player = id ∧ .health = f ∧ value = n
  | _ => False

namespace Session

variable {s : Session} {log : List Edit} {id : Int} {f : ThingField}

/-- The change that an edit comes down to writes the number of the edit. -/
theorem changes_writeNumber (id : Int) (f : ThingField) (s : Session) (e : Edit) :
    Decides (fun c => ∀ n, e.written? id f = some n → c.WritesNumber id f n) (s.changes e) := by
  have hsome : ∀ {p : Prop} [Decidable p] {m n : Int}, (if p then some m else none) = some n → p ∧ m = n := by
    intro p _ m n hif
    split at hif
    · next hp => exact ⟨hp, Option.some.inj hif⟩
    · cases hif
  cases e with
  | thingField i field value =>
      refine fieldChange_decides fun g hfind n hn => ?_
      obtain ⟨⟨rfl, hg⟩, rfl⟩ := hsome hn
      rw [hfind] at hg
      cases hg
      exact ⟨rfl, f.get_store value⟩
  | thingBits i tokens =>
      rw [changes]
      refine bitsChanges_decides fun word hword n hn => ?_
      obtain ⟨⟨rfl, rfl⟩, rfl⟩ := hsome hn
      rw [hword]
      exact ⟨rfl, fun t => rfl⟩
  | thingExtendedBits i tokens =>
      rw [changes]
      refine bitsChanges_decides fun word hword n hn => ?_
      obtain ⟨⟨rfl, rfl⟩, rfl⟩ := hsome hn
      rw [hword]
      exact ⟨rfl, fun t => rfl⟩
  | miscField i field value =>
      rw [changes, miscChange]
      cases hresolve : s.resolve MiscField.table "misc" i field value with
      | error w => exact .warn _
      | ok g =>
          refine .change fun n hn => ?_
          obtain ⟨⟨hg, hid, hf⟩, rfl⟩ := hsome hn
          rw [find?_of_resolve hresolve] at hg
          exact ⟨Option.some.inj hg, hid, hf, rfl⟩
  | _ =>
      -- No other edit writes to things.
      obtain ⟨ws, hcs | ⟨c, -, hcs⟩⟩ := changes_writeTo s _
      · exact ⟨ws, .inl hcs⟩
      · refine ⟨ws, .inr ⟨c, fun n hn => ?_, hcs⟩⟩
        cases hn

/-- The record of a thing; that of a thing that does not exist is neutral. -/
def thingRecord (s : Session) (id : Int) : Thing := (s.thing? id).getD (Thing.neutral (Baseline.extraThingName id))

theorem thingRecord_of_thing? {t : Thing} (hthing : s.thing? id = some t) : s.thingRecord id = t := by
  unfold thingRecord
  rw [hthing, Option.getD_some]

/-- The number in a field of a thing. -/
def thingValue (s : Session) (id : Int) (f : ThingField) : Int := ThingField.table.get f (s.thingRecord id)

/-- A change that writes a number to a field leaves it there. -/
theorem thingValue_of_writesNumber {c : Change} {n : Int} (hnumber : c.WritesNumber id f n)
    (hadmits : s.admits c = true) : (s.carry c).thingValue id f = n := by
  unfold thingValue
  cases c with
  | thing i field alter =>
      obtain ⟨rfl, halter⟩ := hnumber
      obtain ⟨t, hopen⟩ := exists_ok_of_isOk hadmits
      have hthing : (s.carry (.thing i field alter)).thing? i = some (alter t) := by
        rw [carry, hopen]
        exact (thing?_putThing s i i (alter t)).trans (if_pos rfl)
      rw [thingRecord_of_thing? hthing]
      exact halter t
  | misc field value =>
      obtain ⟨rfl, rfl, rfl, rfl⟩ := hnumber
      let u : Session := { s with misc := MiscField.table.store .initialHealth value s.misc, miscModified := true }
      obtain ⟨t, htouched⟩ : ∃ t, (u.touchThings (miscThings .initialHealth)).thing? player = some t :=
        Option.isSome_iff_exists.1 (isSome_thing?_of_baseline (Baseline.isSome_thing? (by decide)))
      have hthing : (s.carry (.misc .initialHealth value)).thing? player = some { t with health := value } := by
        change (u.touchMiscUsers .initialHealth value).thing? player = _
        unfold touchMiscUsers
        dsimp only
        rw [openThing_of_thing? htouched]
        exact (thing?_putThing _ player player _).trans (if_pos rfl)
      rw [thingRecord_of_thing? hthing]
      rfl
  | _ => cases hnumber

/-- One change writes the number of the edit, or leaves the one there was. -/
theorem thingValue_carry {e : Edit} {c : Change} (hwrites : c.WritesTo e.targets)
    (hnumber : ∀ n, e.written? id f = some n → c.WritesNumber id f n) (hadmits : s.admits c = true) :
    (s.carry c).thingValue id f = (e.written? id f).getD (s.thingValue id f) := by
  cases hwritten : e.written? id f with
  | some n => exact thingValue_of_writesNumber (hnumber n hwritten) hadmits
  | none =>
      have hunnamed : Target.field (.thing id f) ∉ e.targets := by
        have hsome := e.isSome_written? id f
        rw [hwritten] at hsome
        simpa using hsome.symm
      have hthing := (Footprint.of_carry hadmits hwrites).things id
      rw [Option.getD_none]
      unfold thingValue thingRecord
      by_cases hnamed : ∃ g, Target.field (.thing id g) ∈ e.targets
      · -- Another field is written, in the record there was or in a neutral one.
        obtain ⟨g, hg⟩ := hnamed
        have hne : f ≠ g := by
          rintro rfl
          exact hunnamed hg
        obtain ⟨t, t', hbefore, hafter, hrewrites⟩ := hthing.written g hg
        have hstart : (s.thing? id).getD (Thing.neutral (Baseline.extraThingName id)) = t := by
          cases hread : s.thing? id with
          | none | some t₀ =>
              rw [hread] at hbefore
              exact Option.some.inj hbefore
        rw [hstart, hafter, Option.getD_some]
        exact hrewrites.2.1 f hne
      · rw [hthing.kept fun g hg => hnamed ⟨g, hg⟩]

/-- A field of a thing has the last number that was written to it, or that of the table. -/
theorem Chronicle.thingValue_eq (hlog : Chronicle log s) (id : Int) (f : ThingField) (version : Int) :
    s.thingValue id f = (log.findSome? (Edit.written? id f)).getD ((Session.new version).thingValue id f) := by
  refine hlog.induct (fun e c => c.WritesTo e.targets ∧ ∀ n, e.written? id f = some n → c.WritesNumber id f n)
    (P := fun log s => s.thingValue id f = (log.findSome? (Edit.written? id f)).getD _)
    (fun s e => (changes_writeTo s e).and (changes_writeNumber id f s e)) (fun _ => rfl) ?_ (fun _ _ _ hs => hs)
    (fun _ _ _ hs => hs)
  intro log s e c hs hc hadmits
  rw [thingValue_carry hc.1 hc.2 hadmits, List.findSome?_cons]
  cases e.written? id f with
  | some n => rfl
  | none => exact hs

end Session
end DoomPatch
