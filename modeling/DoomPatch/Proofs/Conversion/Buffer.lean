import Mathlib.Data.List.Induction
import DoomPatch.Proofs.Conversion.Lumps

/-!
# What a buffer has kept

Lumps are opened, left without being closed, and opened again, and a buffer knows only which of them is selected now.
What it should hold can be told from the calls alone: the text of each call that printed belongs to the kind that was
selected at that moment, and this is the kind that was selected last.

* `BufferCall`, `Buffer.run` — calls, and the buffer that they make of an empty one.
* `BufferCall.selected`, `BufferCall.printed`, `BufferCall.contents` — what the calls say.
* `selected_concat`, `printed_concat` — what one more call adds to that.
* `Buffer.current_run`, `Buffer.find?_run`, `Buffer.stray_run` — the buffer agrees with it after every call.
* `Buffer.run_keeps` — the texts, the listed lumps and the fault after any calls.
-/

namespace DoomPatch

/-- What is done to a buffer. -/
inductive BufferCall where
  | select (k : LumpKind)
  | print (text : String)
  | release
deriving DecidableEq

namespace BufferCall

/-! ### What the calls say -/

/-- What a call selects, a kind or none.  Printing selects nothing anew. -/
def selection? : BufferCall → Option (Option LumpKind)
  | select k => some (some k)
  | print _ => none
  | release => some none

/-- The text that a call prints. -/
def text? : BufferCall → Option String
  | print text => some text
  | select _ | release => none

/-- The kind that is selected after calls: the last selection that was made. -/
def selected (calls : List BufferCall) : Option LumpKind := (calls.filterMap selection?).getLast?.join

/-- The texts that were printed while a kind was selected, or while none was, in the order of the calls. -/
def printed (kind : Option LumpKind) (calls : List BufferCall) : List String :=
  (List.range calls.length).filterMap fun i =>
    if selected (calls.take i) = kind then (calls[i]?).bind text? else none

/-- What a kind that was opened should hold: its header, and the texts that were printed while it was selected. -/
def contents (calls : List BufferCall) (k : LumpKind) : String := k.header ++ String.join (printed (some k) calls)

variable {calls : List BufferCall} {k : LumpKind}

theorem selected_concat (calls : List BufferCall) (c : BufferCall) :
    selected (calls ++ [c]) = c.selection?.getD (selected calls) := by
  unfold selected
  rw [List.filterMap_append]
  cases hselection : c.selection? with
  | none =>
      rw [List.filterMap_cons_none hselection, List.filterMap_nil, List.append_nil]
      rfl
  | some kind =>
      rw [List.filterMap_cons_some hselection, List.filterMap_nil, List.getLast?_concat]
      rfl

theorem printed_concat (kind : Option LumpKind) (calls : List BufferCall) (c : BufferCall) :
    printed kind (calls ++ [c]) = printed kind calls ++ if selected calls = kind then c.text?.toList else [] := by
  unfold printed
  rw [List.length_append, List.length_singleton, List.range_succ, List.filterMap_append]
  congr 1
  · -- Which kind was selected at a call depends on the calls before it only.
    refine List.filterMap_congr fun i hi => ?_
    have hlt := List.mem_range.1 hi
    rw [List.take_append_of_le_length (Nat.le_of_lt hlt), List.getElem?_append_left hlt]
  · rw [List.filterMap_cons, List.filterMap_nil, List.take_left, List.getElem?_concat_length, Option.bind_some]
    by_cases hkind : selected calls = kind
    · rw [if_pos hkind, if_pos hkind]
      cases c.text? <;> rfl
    · rw [if_neg hkind, if_neg hkind]

theorem contents_concat (calls : List BufferCall) (c : BufferCall) (k : LumpKind) :
    contents (calls ++ [c]) k = contents calls k ++ if selected calls = some k then c.text?.getD "" else "" := by
  unfold contents
  rw [printed_concat, String.join_append, String.append_assoc]
  split
  · cases c.text? <;> simp
  · simp

/-- A kind that is selected was opened. -/
theorem select_mem_of_selected (hselected : selected calls = some k) : .select k ∈ calls := by
  obtain ⟨c, hc, hselection⟩ : ∃ c ∈ calls, c.selection? = some (some k) :=
    List.mem_filterMap.1 (List.mem_of_getLast? (Option.join_eq_some_iff.1 hselected))
  cases c with
  | select k' =>
      cases hselection
      exact hc
  | print text | release => cases hselection

/-- Nothing was printed to a kind that was never opened. -/
theorem printed_of_not_mem (hclosed : .select k ∉ calls) : printed (some k) calls = [] := by
  refine List.filterMap_eq_nil_iff.2 fun i _ => if_neg fun hselected => hclosed ?_
  exact List.mem_of_mem_take (select_mem_of_selected hselected)

end BufferCall

namespace Buffer

open BufferCall

/-- Carries out a call. -/
def call (b : Buffer) : BufferCall → Buffer
  | .select k => b.select k
  | .print text => b.print text
  | .release => b.release

/-- Carries out calls on an empty buffer. -/
def run (calls : List BufferCall) : Buffer := calls.foldl call {}

theorem run_concat (calls : List BufferCall) (c : BufferCall) : run (calls ++ [c]) = (run calls).call c := by
  unfold run
  rw [List.foldl_append]
  rfl

/-! ### One call -/

theorem current_call (b : Buffer) (c : BufferCall) : (b.call c).current = c.selection?.getD b.current := by
  cases c with
  | select k => exact b.current_select k
  | print text =>
      change (b.print text).current = b.current
      unfold print
      split <;> rfl
  | release => rfl

/-- A call writes outside of all lumps if it prints and no kind is selected. -/
theorem stray_call (b : Buffer) (c : BufferCall) :
    (b.call c).stray = b.stray + (if b.current = none then c.text?.toList else []).length := by
  cases c with
  | select k =>
      rw [call, stray_select]
      split <;> rfl
  | print text =>
      rw [call, print]
      cases b.current <;> rfl
  | release =>
      rw [call, release]
      split <;> rfl

/-! ### All calls -/

theorem current_run (calls : List BufferCall) : (run calls).current = selected calls := by
  induction calls using List.reverseRecOn with
  | nil => rfl
  | append_singleton calls c ih => rw [run_concat, current_call, ih, selected_concat]

theorem stray_run (calls : List BufferCall) : (run calls).stray = (printed none calls).length := by
  induction calls using List.reverseRecOn with
  | nil => rfl
  | append_singleton calls c ih =>
      rw [run_concat, stray_call, ih, current_run, printed_concat, List.length_append]

/-- A lump holds what it should after the calls, and was opened if a call opened it. -/
theorem find?_run (calls : List BufferCall) (k : LumpKind) :
    (run calls).find? k = if .select k ∈ calls then some (contents calls k) else none := by
  induction calls using List.reverseRecOn with
  | nil => rfl
  | append_singleton calls c ih =>
      rw [run_concat, contents_concat]
      cases c with
      | select k' =>
          rw [call, find?_select]
          by_cases hkind : k = k'
          · subst hkind
            rw [if_pos rfl, if_pos (by simp), ih]
            by_cases hopen : .select k ∈ calls
            · simp [hopen, text?]
            · -- A new lump holds its header only, and nothing was printed to it before.
              rw [if_neg hopen, contents, printed_of_not_mem hopen]
              simp [text?]
          · rw [if_neg hkind, ih]
            simp [hkind, text?]
      | print text =>
          rw [call, find?_print, current_run, ih]
          by_cases hkind : selected calls = some k
          · have hopen := select_mem_of_selected hkind
            simp [hkind, hopen, text?]
          · simp [hkind]
      | release =>
          change (run calls).find? k = _
          rw [ih]
          simp [text?]

/-- The opened lumps are listed in order, each with what it should hold. -/
theorem lumps_run (calls : List BufferCall) :
    (run calls).lumps =
      (LumpKind.all.filter fun k => .select k ∈ calls).map fun k => ⟨k, k.name, contents calls k⟩ := by
  unfold lumps
  rw [← List.filterMap_eq_map, List.filterMap_filter]
  refine List.filterMap_congr fun k _ => ?_
  rw [find?_run]
  by_cases hopen : .select k ∈ calls <;> simp [hopen]

/-- After any calls a kind that was never opened holds nothing, and one that was holds its header, once, and the texts
that were printed while it was selected, in order.  The opened kinds are listed in their order with these texts.  There
is a fault exactly if a text was printed while no kind was selected, and it says how many were. -/
theorem run_keeps (calls : List BufferCall) :
    (∀ k, (run calls).text k =
      if .select k ∈ calls then k.header ++ String.join (printed (some k) calls) else "") ∧
    ((run calls).lumps = (LumpKind.all.filter fun k => .select k ∈ calls).map fun k =>
        ⟨k, k.name, k.header ++ String.join (printed (some k) calls)⟩) ∧
    ((∀ k, .select k ∈ calls → k ∈ LumpKind.all) → ∀ k, k ∈ (run calls).lumps.map (·.kind) ↔ .select k ∈ calls) ∧
    (run calls).fault? =
      if printed none calls = [] then none
      else some (Fault.new .failedPrecondition s!"{(printed none calls).length} writes outside a lump") := by
  refine ⟨fun k => ?_, lumps_run calls, fun hkinds k => ?_, ?_⟩
  · rw [text, find?_run]
    split <;> rfl
  · simpa [lumps_run] using hkinds k
  · rw [fault?, stray_run]
    exact if_congr List.length_eq_zero_iff rfl rfl

/-- Triggers are left for things without being closed and opened again, and two texts are written outside. -/
theorem run_keeps_reopened :
    let calls : List BufferCall := [.print "lost", .select .triggers, .print "a", .select .things, .print "b",
      .select .triggers, .print "c", .release, .print "lost"]
    (∀ k, .select k ∈ calls → k ∈ LumpKind.all) ∧ (run calls).text .triggers = "ac" ∧
      (run calls).text .sounds = "" ∧
      (run calls).lumps = [⟨.things, "DDFTHING", "<THINGS>\n\nb"⟩, ⟨.triggers, "RSCRIPT", "ac"⟩] ∧
      (∀ k, k ∈ (run calls).lumps.map (·.kind) ↔ .select k ∈ calls) ∧
      (run calls).fault? = some (Fault.new .failedPrecondition "2 writes outside a lump") := by
  intro calls
  have hkinds : ∀ k, .select k ∈ calls → k ∈ LumpKind.all := by
    intro k hk
    simp only [calls, List.mem_cons, List.not_mem_nil, or_false, reduceCtorEq, false_or, BufferCall.select.injEq] at hk
    rcases hk with rfl | rfl | rfl <;> decide
  obtain ⟨htext, hlumps, hkind, hfault⟩ := run_keeps calls
  refine ⟨hkinds, ?_, ?_, ?_, hkind hkinds, ?_⟩
  · rw [htext]
    decide
  · rw [htext]
    decide
  · rw [hlumps]
    decide
  · rw [hfault]
    decide

end Buffer
end DoomPatch
