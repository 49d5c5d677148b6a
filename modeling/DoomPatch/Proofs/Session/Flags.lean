import DoomPatch.Proofs.Flag.Expression
import DoomPatch.Proofs.Session.Chronicle

/-!
# Where the flags of a thing come from

The flag word of a thing is written by a field or by a flag expression, and the last of these edits counts.  A number in
a field cannot set the four flags that have a name of their own; an expression sets them by name, and by number too.

* `findSome?_written?` — the last number written to a field is that of the last edit with the field as a target.
* `low32_stored_flags` — a number in a field has none of the four flags.
* `flags_origin` — for each of the four flags, where it comes from.
-/

namespace DoomPatch
namespace Session

/-- The last number written to a field is that of the last edit that names the field. -/
theorem findSome?_written? (id : Int) (f : ThingField) (log : List Edit) :
    log.findSome? (Edit.written? id f) =
      (log.find? fun e => Target.field (.thing id f) ∈ e.targets).bind (Edit.written? id f) := by
  induction log with
  | nil => rfl
  | cons e log ih =>
      rw [List.findSome?_cons, List.find?_cons, ← e.isSome_written? id f]
      cases hwritten : e.written? id f with
      | some n => exact hwritten.symm
      | none => exact ih

/-- A number in the field is cut to the word, and the four flags are masked. -/
theorem low32_stored_flags (v : Int) :
    Word.low32 (ThingField.flags.stored v) = Word.low32 v &&& ~~~ThingFlag.mnemonicOnly :=
  (low32_toNat _).trans (low32_toNat _)

/-- **Where the flags with a name of their own come from.**  A session can be reached exactly if it has a chronicle; and
for each thing and each of the four flags, if no edit of the chronicle writes the flag word of the thing, the flag is
that of the table.  Otherwise the last edit that does so counts: a field never sets the flag, and an expression sets it
exactly if one of its tokens is the name of the flag, or a number that has it. -/
theorem flags_origin (s : Session) :
    (s.Reachable ↔ ∃ log, Chronicle log s) ∧
    ∀ (log : List Edit) (id : Int) (t : Thing) (m : Mnemonic), Chronicle log s → s.thing? id = some t →
      m ∈ ThingFlag.byName →
      (t.has m.bit = true ↔
        match log.find? fun e => Target.field (.thing id .flags) ∈ e.targets with
        | none => ∃ t₀, Baseline.thing? id = some t₀ ∧ t₀.has m.bit = true
        | some (.thingBits _ tokens) =>
          ∃ token ∈ FlagExpression.tokens tokens.toList, FlagExpression.Names m token ∨
            ∃ word, FlagExpression.readNumber? token = some word ∧ Word.hasAll word m.bit = true
        | some _ => False) := by
  refine ⟨reachable_iff_chronicle, fun log id t m hlog hthing hm => ?_⟩
  have hbit := FlagExpression.isFlag_of_mem_byName hm
  have hword : t.flags = Word.low32 (s.thingValue id .flags) := by
    unfold thingValue
    rw [thingRecord_of_thing? hthing]
    exact (low32_toNat t.flags).symm
  rw [Thing.has, hword, hlog.thingValue_eq id .flags 0, findSome?_written?]
  cases hlast : log.find? fun e => Target.field (.thing id .flags) ∈ e.targets with
  | none =>
      have htable : Word.low32 ((new 0).thingValue id .flags) = ((new 0).thingRecord id).flags := low32_toNat _
      rw [Option.bind_none, Option.getD_none, htable, thingRecord]
      change Word.hasAll ((Baseline.thing? id).getD _).flags m.bit = true ↔ _
      cases Baseline.thing? id with
      | none => simp [Thing.neutral, Word.hasAll_zero hbit]
      | some t₀ => simp [Thing.has]
  | some e =>
      have hnamed := List.find?_some hlast
      rw [← e.isSome_written? id .flags] at hnamed
      rw [Option.bind_some]
      cases e with
      | thingBits i tokens =>
          rw [Edit.written?] at hnamed ⊢
          split at hnamed
          · next heq =>
            rw [if_pos heq, Option.getD_some, low32_toNat]
            exact FlagExpression.hasAll_parse_iff hm tokens
          · cases hnamed
      | thingField i field value =>
          rw [Edit.written?] at hnamed ⊢
          split at hnamed
          · next hfield =>
            obtain ⟨-, -, hmask, -⟩ := FlagExpression.byName_checked m hm
            rw [if_pos hfield, Option.getD_some, low32_stored_flags, Word.hasAll_and_not hbit hmask]
            simp
          · cases hnamed
      | _ => simp [Edit.written?] at hnamed

/-- The flag is set by name, then a number in the field leaves it out although it has the bit. -/
theorem flags_origin_masked :
    ∃ (s : Session) (t : Thing), Chronicle [.thingField 11 "Bits" (-1), .thingBits 11 "SOLID|mf_Touchy"] s ∧
      s.thing? 11 = some t ∧ ⟨"TOUCHY", ThingFlag.touchy⟩ ∈ ThingFlag.byName ∧ t.has ThingFlag.touchy = false := by
  have hnamed := (Chronicle.new 21).accepted (e := .thingBits 11 "SOLID|mf_Touchy") rfl (by decide)
  have hmasked := hnamed.accepted (e := .thingField 11 "Bits" (-1)) rfl (by decide)
  have hbase : (Baseline.thing? 11).isSome := Baseline.isSome_thing? (by decide)
  obtain ⟨t, hthing⟩ := Option.isSome_iff_exists.1 (isSome_thing?_of_baseline hbase)
  have horigin := (flags_origin _).2 _ 11 t ⟨"TOUCHY", ThingFlag.touchy⟩ hmasked hthing List.mem_cons_self
  have hlast : ([.thingField 11 "Bits" (-1), .thingBits 11 "SOLID|mf_Touchy"] : List Edit).find?
      (fun e => Target.field (.thing 11 .flags) ∈ e.targets) = some (.thingField 11 "Bits" (-1)) := by decide
  rw [hlast] at horigin
  exact ⟨_, t, hmasked, hthing, List.mem_cons_self, by simpa using horigin⟩

/-- A number sets the flag in an expression that does not name it. -/
theorem number_sets_touchy :
    let s := patched 21 [.thingBits 11 "0x10000000"]
    s.Reachable ∧ (new 21).accepts (.thingBits 11 "0x10000000") = true ∧
      FlagExpression.tokens "0x10000000".toList = ["0x10000000".toList] ∧
      Vocabulary.thing.lookup? "0x10000000".toList = none ∧
      (Baseline.thing? 11).any (·.has ThingFlag.touchy) = false ∧
      (s.thing? 11).any (·.has ThingFlag.touchy) = true := by
  refine ⟨reachable_patched _ _, ?_, ?_, ?_, ?_, ?_⟩ <;> set_option maxRecDepth 4000 in decide

end Session
end DoomPatch
