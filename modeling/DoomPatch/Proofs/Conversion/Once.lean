import Mathlib.Data.List.Nodup
import DoomPatch.Proofs.Conversion.Journal
import DoomPatch.Workbench

/-!
# Scratch attacks are defined once

Edits and conversions alternate on one workbench, and whatever is converted again or converted under another edit, a
scratch attack that is struck with has one definition.

* `Call`, `Workbench.run` — edits and conversions, and what they lead to.
* `Workbench.written` — the definitions that they write.
* `Workbench.Orderly`, `Orderly.call`, `Orderly.run` — the journal fits the press after every call.
* `Workbench.scratches_defined_once` — so what is struck with is defined exactly once.
-/

namespace DoomPatch

/-- What can be asked of a workbench. -/
inductive Call where
  | edit (e : Edit)
  | version (version : Int)
  | reset
  | convertAll
  | convertThing (id : Int)
  | convertWeapon (id : Int)

namespace Workbench

/-- Carries out a call. -/
def call (b : Workbench) : Call → Workbench
  | .edit e => (b.apply e).1
  | .version version => b.mapSession (·.setVersion version)
  | .reset => b.mapSession Session.reset
  | .convertAll => b.convertAll.1
  | .convertThing id => (b.convertThing id).1
  | .convertWeapon id => (b.convertWeapon id).1

/-- Carries out calls in order. -/
def run (b : Workbench) (calls : List Call) : Workbench := calls.foldl call b

/-- The definitions that publishing a draft adds; none if it cannot be made. -/
def draftBlocks (b : Workbench) : Except ConversionError Draft → List (LumpKind × Block)
  | .ok d => b.press.publishBlocks d
  | .error _ => []

/-- The definitions that a call adds. -/
def callBlocks (b : Workbench) : Call → List (LumpKind × Block)
  | .edit _ | .version _ | .reset => []
  | .convertAll => b.press.convertAllBlocks b.toView
  | .convertThing id => b.draftBlocks (Draft.ofThing b.toView id)
  | .convertWeapon id => b.draftBlocks (Draft.ofWeapon b.toView id)

/-- The definitions that calls add, in the order in which they are written. -/
def written (b : Workbench) : List Call → List (LumpKind × Block)
  | [] => []
  | c :: calls => b.callBlocks c ++ (b.call c).written calls

/-- Nothing is hidden or renamed in conversions, the names of the session are in order, and the journal fits the
press. -/
structure Orderly (b : Workbench) (log : List (LumpKind × Block)) : Prop where
  view : b.toView = { session := b.session }
  named : b.session.Named
  journal : b.press.Journal log

theorem orderly_new (version : Int) : (ofSession (Session.new version)).Orderly [] where
  view := rfl
  named := Session.named_new version
  journal := Press.journal_nil

namespace Orderly

variable {b : Workbench} {log : List (LumpKind × Block)}

theorem tidy (hb : b.Orderly log) : b.toView.Tidy := hb.view ▸ hb.named.tidy

theorem view_eq (hb : b.Orderly log) (s : Session) : ({ b.toView with session := s } : View) = { session := s } := by
  rw [hb.view]

/-- Another session with names in order changes nothing that is written. -/
theorem withSession (hb : b.Orderly log) {s : Session} (hs : s.Named) :
    ({ b with session := s } : Workbench).Orderly log where
  view := hb.view_eq s
  named := hs
  journal := hb.journal

/-- Warnings are handed to the session, which does not change any name. -/
theorem settle (hb : b.Orderly log) {p : Press} {log' : List (LumpKind × Block)} (hp : p.Journal log') :
    (b.settle p).Orderly log' where
  view := hb.view_eq _
  named := hb.named.congr rfl rfl rfl rfl rfl
  journal := hp.congr rfl rfl

theorem publish (hb : b.Orderly log) {draft : Except ConversionError Draft} (hdraft : ∀ d, draft = .ok d → d.Armed) :
    (b.settleOne (draft.map b.press.publish)).1.Orderly (log ++ b.draftBlocks draft) := by
  cases draft with
  | error e => simpa [draftBlocks, settleOne, Except.map] using hb
  | ok d => exact hb.settle (hb.journal.publish (hdraft d rfl))

/-- Every call extends the journal by what it writes. -/
theorem call (hb : b.Orderly log) (c : Call) : (b.call c).Orderly (log ++ b.callBlocks c) := by
  cases c with
  | edit e =>
      simp only [callBlocks, List.append_nil]
      change (b.apply e).1.Orderly log
      unfold Workbench.apply
      cases happly : b.session.apply e with
      | ok s => exact hb.withSession (hb.named.apply happly)
      | error err => exact hb
  | version version =>
      simp only [callBlocks, List.append_nil]
      exact hb.withSession (hb.named.setVersion version)
  | reset =>
      simp only [callBlocks, List.append_nil]
      exact hb.withSession (Session.named_new _)
  | convertAll => exact hb.settle (hb.journal.convertAll hb.tidy)
  | convertThing id => exact hb.publish fun d => Draft.armed_of_ofThing hb.tidy
  | convertWeapon id => exact hb.publish fun d => Draft.armed_of_ofWeapon hb.tidy

/-- So do calls one after the other. -/
theorem run (hb : b.Orderly log) (calls : List Call) : (b.run calls).Orderly (log ++ b.written calls) := by
  induction calls generalizing b log with
  | nil => simpa [written, Workbench.run] using hb
  | cons c calls ih =>
      have hrest := ih (hb.call c)
      rw [List.append_assoc] at hrest
      exact hrest

end Orderly

/-- After any edits and conversions on one workbench, every scratch attack that is struck with, in an action of a frame
or in a clause, is the name of exactly one definition in the lump of attacks.  No two definitions there have the same
name, and no name is reserved without a definition.  The lumps are the definitions as they are written down, each with a
line that has its name in brackets. -/
theorem scratches_defined_once (version : Int) (calls : List Call) :
    let b := (ofSession (Session.new version)).run calls
    let log := (ofSession (Session.new version)).written calls
    let attacks := (blocksOf .attacks log).map (·.name)
    (∀ k, k ≠ .triggers → ∃ texts, List.Forall₂ Block.Spelled (blocksOf k log) texts ∧
      (b.press.buffer.find? k).getD k.header = k.header ++ String.join texts) ∧
    (∀ e ∈ log, ∀ c ∈ e.2.clauses, ∀ name, c.Strikes name → "SCRATCH_".toList <+: name.toList →
      attacks.count name = 1) ∧
    attacks.Nodup ∧ b.press.used = attacks := by
  intro b log attacks
  have horderly := (orderly_new version).run calls
  rw [List.nil_append] at horderly
  have hused : b.press.used = attacks := horderly.journal.used
  have hnodup : attacks.Nodup := hused ▸ horderly.journal.distinct
  refine ⟨horderly.journal.wrote, ?_, hnodup, hused⟩
  intro e he c hc name hstrikes hname
  have hmem : name ∈ attacks := hused ▸ horderly.journal.struck e he name ⟨c, hc, hstrikes⟩ hname
  exact List.count_eq_one_of_mem hnodup hmem

end Workbench
end DoomPatch
