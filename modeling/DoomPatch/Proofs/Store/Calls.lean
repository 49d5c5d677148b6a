import DoomPatch.Proofs.Store.Recorded
import DoomPatch.Store

/-!
# Calls to a store

A store is used by saving and loading runs while time passes.  What it should answer is told by the calls alone: the
last run that was saved under a name, and how long ago that was.  Time is counted in nanoseconds.

* `StoreCall`, `Store.afterAll` — what is done to a store, and what becomes of the medium.
* `latest?` — the last run saved under a name, with its age.
* `Store.afterAll_keeps` — what each call keeps holds after all of them.
-/

namespace DoomPatch

/-- What is done to a store. -/
inductive StoreCall where
  | save (r : Run)
  | load (id : String)
  | wait (time : Nat)

/-- The last run saved under a name, with its age, after one more call. -/
def StoreCall.recall (id : String) (last : Option (Run × Nat)) : StoreCall → Option (Run × Nat)
  | .save r => if r.id = id then some (r, 0) else last
  | .load _ => last
  | .wait time => last.map fun (r, age) => (r, age + time)

@[simp] theorem StoreCall.recall_save (id : String) (last : Option (Run × Nat)) (r : Run) :
    (StoreCall.save r).recall id last = if r.id = id then some (r, 0) else last := rfl

@[simp] theorem StoreCall.recall_wait (id : String) (last : Option (Run × Nat)) (time : Nat) :
    (StoreCall.wait time).recall id last = last.map fun (r, age) => (r, age + time) := rfl

/-- The last run saved under a name, with its age. -/
def latest? (id : String) (calls : List StoreCall) : Option (Run × Nat) := calls.foldl (StoreCall.recall id) none

/-- The last run saved under a name was saved, and has the name. -/
theorem mem_of_latest? {id : String} {calls : List StoreCall} {r : Run} {age : Nat}
    (hlatest : latest? id calls = some (r, age)) : .save r ∈ calls ∧ r.id = id := by
  -- Behind any run known before the calls, the answer is that run or one of theirs.
  have hfold : ∀ (calls : List StoreCall) (last : Option (Run × Nat)),
      calls.foldl (StoreCall.recall id) last = some (r, age) →
        (∃ age', last = some (r, age')) ∨ (.save r ∈ calls ∧ r.id = id) := by
    intro calls
    induction calls with
    | nil => exact fun last heq => .inl ⟨age, heq⟩
    | cons c calls ih =>
        intro last heq
        rcases ih (c.recall id last) heq with ⟨age', hrecall⟩ | ⟨hmem, hid⟩
        · cases c with
          | save r' =>
              rw [StoreCall.recall_save] at hrecall
              split at hrecall
              · next hid =>
                cases hrecall
                exact .inr ⟨List.mem_cons_self, hid⟩
              · exact .inl ⟨age', hrecall⟩
          | load id' => exact .inl ⟨age', hrecall⟩
          | wait time =>
              obtain ⟨⟨r', age''⟩, rfl, heq'⟩ := Option.map_eq_some_iff.1 hrecall
              cases heq'
              exact .inl ⟨age'', rfl⟩
        · exact .inr ⟨List.mem_cons_of_mem _ hmem, hid⟩
  rcases hfold calls none hlatest with ⟨age', hnone⟩ | hsaved
  · cases hnone
  · exact hsaved

namespace Store

theorem load_some (s : Store) (m : Medium) {id : String} (hid : id ≠ "") :
    s.load m (some id) =
      match s with
      | directory d => d.load m.files id
      | hashes h => h.load m.server id := by
  unfold load
  split
  · next heq => cases heq
  · next heq => exact absurd (Option.some.inj heq) hid
  · next heq =>
    cases heq
    rfl

theorem load_directory (d : Directory) (m : Medium) {id : String} (hid : id ≠ "") :
    (directory d).load m (some id) = d.load m.files id := load_some _ m hid

theorem load_hashes (h : HashStore) (m : Medium) {id : String} (hid : id ≠ "") :
    (hashes h).load m (some id) = h.load m.server id := load_some _ m hid

theorem save_directory (d : Directory) (m : Medium) {r : Run} (hr : r.id ≠ "") :
    (directory d).save m (some r) = ({ m with files := (d.save m.files r).1 }, (d.save m.files r).2) := by
  unfold save
  dsimp only
  rw [if_neg hr]

theorem save_hashes (h : HashStore) (m : Medium) {r : Run} (hr : r.id ≠ "") :
    (hashes h).save m (some r) = ({ m with server := (h.save m.server r).1 }, (h.save m.server r).2) := by
  unfold save
  dsimp only
  rw [if_neg hr]

/-- The medium after a call.  Only items of a hash server grow old. -/
def after (s : Store) (m : Medium) : StoreCall → Medium
  | .save r => (s.save m (some r)).1
  | .load _ => m
  | .wait time => { m with server := m.server.advance time }

/-- The medium after calls in order. -/
def afterAll (s : Store) (m : Medium) (calls : List StoreCall) : Medium := calls.foldl s.after m

/-- What each call keeps, of the medium and of what should be answered, holds after all of them. -/
theorem afterAll_keeps {s : Store} {id : String} {holds : Medium → Option (Run × Nat) → Prop} {calls : List StoreCall}
    (hstep : ∀ c ∈ calls, ∀ m last, holds m last → holds (s.after m c) (c.recall id last)) {m : Medium}
    (hm : holds m none) : holds (s.afterAll m calls) (latest? id calls) := by
  unfold afterAll latest?
  generalize none = last at hm
  induction calls generalizing m last with
  | nil => exact hm
  | cons c calls ih =>
      exact ih (fun c' hc' => hstep c' (List.mem_cons_of_mem _ hc')) _ (hstep c List.mem_cons_self m last hm)

end Store
end DoomPatch
