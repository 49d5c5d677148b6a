import DoomPatch.Session

/-!
# Rewriting an overlay

A record is changed by opening it, altering it and storing the result.  Opening takes the record of the overlay,
or else the one that a change of an unmodified number starts from, which may be refused.  Touching is the
alteration that changes nothing.

* `opened` — the record that a change starts from.
* `Write`, `rewriteAll` — alterations of numbered records, carried out in order.
* `opened_rewriteAll` — what is opened afterwards is what was opened before, altered.
* `contains_rewriteAll` — modified afterwards is what was modified before and what was written.
* `eq_of_opened_eq` — an overlay is determined by what is modified and what is opened.
* `rewriteAll_eq` — writes count by the numbers they write and by what they make of the records.
-/

namespace DoomPatch
namespace Overlay

variable {ρ : Type}

/-- The record that a change starts from: the one of the overlay, or else one of `base`. -/
def opened (base : Int → Except RangeError ρ) (m : SortedMap Int ρ) (id : Int) : Except RangeError ρ :=
  match m.get? id with
  | some r => .ok r
  | none => base id

/-- An alteration of the record of a number. -/
structure Write (ρ : Type) where
  /-- The number. -/
  id : Int
  /-- What becomes of the record. -/
  alter : ρ → ρ

/-- Alters a record, unless it cannot be opened. -/
def rewrite (base : Int → Except RangeError ρ) (m : SortedMap Int ρ) (w : Write ρ) : SortedMap Int ρ :=
  match opened base m w.id with
  | .ok r => m.insert w.id (w.alter r)
  | .error _ => m

/-- Alters records in order. -/
def rewriteAll (base : Int → Except RangeError ρ) (m : SortedMap Int ρ) (ws : List (Write ρ)) : SortedMap Int ρ :=
  ws.foldl (rewrite base) m

/-- The writes that touch records and leave them as they are. -/
def touches (ids : List Int) : List (Write ρ) := ids.map fun id => ⟨id, fun r => r⟩

/-- What writes make of the record of a number. -/
def composed (ws : List (Write ρ)) (id : Int) (r : ρ) : ρ :=
  ws.foldl (fun r w => if w.id = id then w.alter r else r) r

/-- The numbers that are written. -/
def written (ws : List (Write ρ)) : List Int := ws.map Write.id

variable {base : Int → Except RangeError ρ} {m m' : SortedMap Int ρ}

@[simp] theorem rewriteAll_nil : rewriteAll base m [] = m := rfl

@[simp] theorem rewriteAll_cons (w : Write ρ) (ws : List (Write ρ)) :
    rewriteAll base m (w :: ws) = rewriteAll base (rewrite base m w) ws := rfl

theorem rewriteAll_append (ws ws' : List (Write ρ)) :
    rewriteAll base m (ws ++ ws') = rewriteAll base (rewriteAll base m ws) ws' := List.foldl_append

@[simp] theorem composed_nil (id : Int) (r : ρ) : composed [] id r = r := rfl

@[simp] theorem composed_cons (w : Write ρ) (ws : List (Write ρ)) (id : Int) (r : ρ) :
    composed (w :: ws) id r = composed ws id (if w.id = id then w.alter r else r) := rfl

@[simp] theorem written_nil : written ([] : List (Write ρ)) = [] := rfl

@[simp] theorem written_cons (w : Write ρ) (ws : List (Write ρ)) : written (w :: ws) = w.id :: written ws := rfl

@[simp] theorem written_append (ws ws' : List (Write ρ)) : written (ws ++ ws') = written ws ++ written ws' :=
  List.map_append

@[simp] theorem written_touches (ids : List Int) : written (touches ids : List (Write ρ)) = ids := by
  simp [written, touches, Function.comp_def]

theorem composed_append (ws ws' : List (Write ρ)) (id : Int) (r : ρ) :
    composed (ws ++ ws') id r = composed ws' id (composed ws id r) := List.foldl_append

@[simp] theorem composed_touches (ids : List Int) (id : Int) (r : ρ) : composed (touches ids) id r = r := by
  induction ids with
  | nil => rfl
  | cons i ids ih =>
      change composed (touches ids) id (if i = id then r else r) = r
      rw [ite_self, ih]

theorem opened_of_get? {id : Int} {r : ρ} (hget : m.get? id = some r) : opened base m id = .ok r := by
  unfold opened
  rw [hget]

theorem opened_of_get?_eq_none {id : Int} (hget : m.get? id = none) : opened base m id = base id := by
  unfold opened
  rw [hget]

theorem rewriteAll_one_of_ok (alter : ρ → ρ) {id : Int} {r : ρ} (hopen : opened base m id = .ok r) :
    rewriteAll base m [⟨id, alter⟩] = m.insert id (alter r) := by
  simp [rewrite, hopen]

theorem rewriteAll_one_of_error (alter : ρ → ρ) {id : Int} {e : RangeError} (hopen : opened base m id = .error e) :
    rewriteAll base m [⟨id, alter⟩] = m := by
  simp [rewrite, hopen]

/-- One write alters the record of its number and no other. -/
theorem opened_rewrite (w : Write ρ) (id : Int) :
    opened base (rewrite base m w) id = (opened base m id).map fun r => if w.id = id then w.alter r else r := by
  unfold rewrite
  cases hopen : opened base m w.id with
  | error e =>
      by_cases heq : w.id = id
      · subst heq
        rw [hopen]
        rfl
      · simp only [if_neg heq]
        cases opened base m id <;> rfl
  | ok r =>
      by_cases heq : w.id = id
      · subst heq
        rw [opened_of_get? (SortedMap.get?_insert_self m w.id (w.alter r)), hopen]
        simp [Except.map]
      · have hother : (m.insert w.id (w.alter r)).get? id = m.get? id :=
          SortedMap.get?_insert_of_ne m (fun h => heq h.symm) _
        simp only [if_neg heq]
        unfold opened
        rw [hother]
        cases m.get? id with
        | some r => rfl
        | none => cases base id <;> rfl

/-- What is opened after writes is what was opened before, altered by the writes to its number. -/
theorem opened_rewriteAll (ws : List (Write ρ)) (id : Int) :
    opened base (rewriteAll base m ws) id = (opened base m id).map (composed ws id) := by
  induction ws generalizing m with
  | nil => cases h : opened base m id <;> simp [h, Except.map]
  | cons w ws ih =>
      rw [rewriteAll_cons, ih, opened_rewrite]
      cases opened base m id <;> rfl

theorem isOk_opened_rewriteAll (ws : List (Write ρ)) (id : Int) :
    (opened base (rewriteAll base m ws) id).isOk = (opened base m id).isOk := by
  rw [opened_rewriteAll]
  cases opened base m id <;> rfl

theorem contains_rewrite (w : Write ρ) (id : Int) :
    (rewrite base m w).contains id = true ↔ m.contains id = true ∨ (id = w.id ∧ (opened base m id).isOk = true) := by
  unfold rewrite
  cases hopen : opened base m w.id with
  | error e =>
      have hno : ¬ (id = w.id ∧ (opened base m id).isOk = true) := by
        rintro ⟨rfl, hok⟩
        rw [hopen] at hok
        cases hok
      simp [hno]
  | ok r =>
      unfold SortedMap.contains
      rw [SortedMap.get?_insert]
      by_cases heq : id = w.id
      · subst heq
        rw [hopen]
        simp [Except.isOk, Except.toBool]
      · simp [heq]

/-- Modified after writes is what was modified before, and what was written and could be opened. -/
theorem contains_rewriteAll (ws : List (Write ρ)) (id : Int) :
    (rewriteAll base m ws).contains id = true ↔
      m.contains id = true ∨ (id ∈ written ws ∧ (opened base m id).isOk = true) := by
  induction ws generalizing m with
  | nil => simp
  | cons w ws ih =>
      have hok : (opened base (rewrite base m w) id).isOk = (opened base m id).isOk :=
        isOk_opened_rewriteAll [w] id
      rw [rewriteAll_cons, ih, contains_rewrite, hok, written_cons, List.mem_cons, or_assoc, ← or_and_right]

/-- A number that is not written keeps its record. -/
theorem get?_rewriteAll_of_not_mem {ws : List (Write ρ)} {id : Int} (hid : id ∉ written ws) :
    (rewriteAll base m ws).get? id = m.get? id := by
  induction ws generalizing m with
  | nil => rfl
  | cons w ws ih =>
      rw [written_cons, List.mem_cons, not_or] at hid
      rw [rewriteAll_cons, ih hid.2]
      unfold rewrite
      cases opened base m w.id with
      | error e => rfl
      | ok r => exact SortedMap.get?_insert_of_ne m hid.1 _

/-- Two overlays with the same numbers modified that open alike are the same. -/
theorem eq_of_opened_eq (base : Int → Except RangeError ρ)
    (hcontains : ∀ id, m.contains id = true ↔ m'.contains id = true)
    (hopened : ∀ id, opened base m id = opened base m' id) : m = m' := by
  apply SortedMap.ext_get?
  intro id
  have hboth := hcontains id
  have hsame := hopened id
  unfold SortedMap.contains at hboth
  unfold opened at hsame
  cases hm : m.get? id <;> cases hm' : m'.get? id <;> simp_all

/-- Writes to the same numbers that make the same of every record come to the same. -/
theorem rewriteAll_eq {ws ws' : List (Write ρ)} (hwritten : ∀ id, id ∈ written ws ↔ id ∈ written ws')
    (hcomposed : ∀ id r, composed ws id r = composed ws' id r) : rewriteAll base m ws = rewriteAll base m ws' := by
  refine eq_of_opened_eq base ?_ ?_
  · intro id
    rw [contains_rewriteAll, contains_rewriteAll, hwritten]
  · intro id
    rw [opened_rewriteAll, opened_rewriteAll, funext (hcomposed id)]

/-- Writes that commute number by number commute as a whole. -/
theorem composed_comm {ws ws' : List (Write ρ)}
    (hcomm : ∀ w ∈ ws, ∀ w' ∈ ws', w.id = w'.id → ∀ r, w'.alter (w.alter r) = w.alter (w'.alter r))
    (id : Int) (r : ρ) :
    composed ws' id (composed ws id r) = composed ws id (composed ws' id r) := by
  -- One write passes all of the others.
  have hpass : ∀ (w : Write ρ) (ws' : List (Write ρ)),
      (∀ w' ∈ ws', w.id = w'.id → ∀ r, w'.alter (w.alter r) = w.alter (w'.alter r)) → ∀ r,
      composed ws' id (if w.id = id then w.alter r else r) =
        if w.id = id then w.alter (composed ws' id r) else composed ws' id r := by
    intro w ws'
    induction ws' with
    | nil => exact fun _ _ => rfl
    | cons w' ws' ih =>
        intro hcomm r
        have hone := hcomm w' List.mem_cons_self
        have hrest := ih fun v hv => hcomm v (List.mem_cons_of_mem w' hv)
        rw [composed_cons, composed_cons, ← hrest]
        by_cases hw : w.id = id <;> by_cases hw' : w'.id = id <;> simp [hw, hw', hone]
  induction ws generalizing r with
  | nil => rfl
  | cons w ws ih =>
      rw [composed_cons, composed_cons, ih (fun v hv => hcomm v (List.mem_cons_of_mem w hv)),
        hpass w ws' (hcomm w List.mem_cons_self)]

end Overlay
end DoomPatch
