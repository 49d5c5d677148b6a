import Mathlib.Data.List.Basic
import DoomPatch.Conversion

/-!
# What a press writes to its lumps

A definition that is published on an empty press fills the lump of its kind, and its scratch attacks, if it has
any, fill the lump of attacks.

* `Buffer.find?_select`, `Buffer.find?_print` — what opening a lump and printing to it does to the contents.
* `Buffer.find?_write` — a piece of text goes to its lump and to no other.
* `Buffer.lumps_eq_iff` — buffers list the same lumps if they hold the same for every kind.
* `Press.find?_publish` — the lumps of a published definition of a thing.
* `Block.Spelled` — how a definition is written down; `Block.spelled_text` — its text is written so.
* `Block.text_eq_iff` — two definitions with the same frame differ in text exactly where their clauses differ.
-/

namespace DoomPatch
namespace Buffer

/-- The contents of a kind after text was added to another or the same. -/
theorem find?_map_append (opened : List (LumpKind × String)) (k k' : LumpKind) (text : String) :
    ((opened.map fun e => if e.1 = k then (e.1, e.2 ++ text) else e).find? fun e => e.1 == k').map (·.2) =
      if k' = k then ((opened.find? fun e => e.1 == k').map (·.2)).map (· ++ text)
      else (opened.find? fun e => e.1 == k').map (·.2) := by
  induction opened with
  | nil => simp
  | cons e opened ih =>
      rw [List.map_cons, List.find?_cons, List.find?_cons]
      by_cases hkind : e.1 = k
      · rw [if_pos hkind]
        by_cases hhere : e.1 = k'
        · rw [if_pos (hhere.symm.trans hkind), hhere]
          simp
        · have hne : (e.1 == k') = false := by simpa using hhere
          simp only [hne]
          exact ih
      · rw [if_neg hkind]
        by_cases hhere : e.1 = k'
        · rw [if_neg (fun h => hkind (hhere.trans h)), hhere]
          simp
        · have hne : (e.1 == k') = false := by simpa using hhere
          simp only [hne]
          exact ih

theorem find?_select (b : Buffer) (k k' : LumpKind) :
    (b.select k).find? k' = if k' = k then some ((b.find? k).getD k.header) else b.find? k' := by
  unfold select
  by_cases hopen : (b.find? k).isSome
  · rw [if_pos hopen]
    obtain ⟨text, htext⟩ := Option.isSome_iff_exists.1 hopen
    split
    · next heq => rw [heq, htext, Option.getD_some]; exact htext
    · rfl
  · rw [if_neg hopen]
    have hnone : b.opened.find? (fun e => e.1 == k) = none := by
      unfold find? at hopen
      rwa [Option.isSome_map, Bool.not_eq_true, Option.isSome_eq_false_iff, Option.isNone_iff_eq_none] at hopen
    unfold find?
    rw [List.find?_append, hnone]
    split
    · next heq =>
      rw [heq, hnone]
      simp
    · next hne =>
      have hother : (k == k') = false := by simpa using fun h : k = k' => hne h.symm
      simp [hother]

theorem current_select (b : Buffer) (k : LumpKind) : (b.select k).current = some k := by
  unfold select
  split <;> rfl

theorem stray_select (b : Buffer) (k : LumpKind) : (b.select k).stray = b.stray := by
  unfold select
  split <;> rfl

/-- Text goes behind what the selected lump holds, and to no other. -/
theorem find?_print (b : Buffer) (k : LumpKind) (text : String) :
    (b.print text).find? k = if b.current = some k then (b.find? k).map (· ++ text) else b.find? k := by
  unfold print
  cases b.current with
  | none => rfl
  | some kind =>
      have hiff : some kind = some k ↔ k = kind := by rw [Option.some.injEq, eq_comm]
      rw [if_congr hiff rfl rfl]
      exact find?_map_append b.opened kind k text

/-- A piece of text goes behind what its lump holds, or behind the header of a new lump, and to no other. -/
theorem find?_write (b : Buffer) (k k' : LumpKind) (text : String) :
    (b.write k text).find? k' = if k' = k then some ((b.find? k).getD k.header ++ text) else b.find? k' := by
  have hiff : some k = some k' ↔ k' = k := by rw [Option.some.injEq, eq_comm]
  change ((b.select k).print text).find? k' = _
  rw [find?_print, current_select, find?_select, if_congr hiff rfl rfl]
  split <;> rfl

/-- The lump of a kind among the listed ones has the contents of the kind. -/
theorem find?_listed (b : Buffer) (kinds : List LumpKind) {k : LumpKind} (hk : k ∈ kinds) :
    ((kinds.filterMap fun k => (b.find? k).map fun t => Lump.mk k k.name t).find? fun l => l.kind == k).map (·.text) =
      b.find? k := by
  induction kinds with
  | nil => simp at hk
  | cons kind kinds ih =>
      cases hfind : b.find? kind with
      | none =>
          rw [List.filterMap_cons_none (by rw [hfind]; rfl)]
          by_cases hlater : k ∈ kinds
          · exact ih hlater
          · -- The kind was never opened, so no lump of it is listed.
            obtain rfl : k = kind := (List.mem_cons.1 hk).resolve_right hlater
            rw [hfind, Option.map_eq_none_iff, List.find?_eq_none]
            intro l hl
            obtain ⟨kind, hkind, hlump⟩ := List.mem_filterMap.1 hl
            obtain ⟨text, -, rfl⟩ := Option.map_eq_some_iff.1 hlump
            simpa using fun heq : kind = k => hlater (heq ▸ hkind)
      | some text =>
          rw [List.filterMap_cons_some (by rw [hfind]; rfl), List.find?_cons]
          by_cases hhere : kind = k
          · subst hhere
            simp [hfind]
          · have hne : (kind == k) = false := by simpa using hhere
            simp only [hne]
            exact ih ((List.mem_cons.1 hk).resolve_left fun h => hhere h.symm)

/-- Buffers list the same lumps exactly if they hold the same for every kind. -/
theorem lumps_eq_iff (b b' : Buffer) : b.lumps = b'.lumps ↔ ∀ k ∈ LumpKind.all, b.find? k = b'.find? k := by
  constructor
  · intro heq k hk
    unfold lumps at heq
    rw [← b.find?_listed LumpKind.all hk, ← b'.find?_listed LumpKind.all hk, heq]
  · intro hall
    unfold lumps
    refine List.filterMap_congr fun k hk => ?_
    rw [hall k hk]

end Buffer

namespace Press

/-- Reserving one name after the other. -/
theorem reserveAll_cons (p : Press) (s : Scratch) (rest : List Scratch) :
    p.reserveAll (s :: rest) =
      (if (p.reserve s.name s.frame).1 then s :: ((p.reserve s.name s.frame).2.reserveAll rest).1
        else ((p.reserve s.name s.frame).2.reserveAll rest).1,
        ((p.reserve s.name s.frame).2.reserveAll rest).2) := rfl

/-- Reserving names writes nothing. -/
theorem buffer_reserveAll (p : Press) (scratches : List Scratch) : (p.reserveAll scratches).2.buffer = p.buffer := by
  have hreserve : ∀ (p : Press) (name : String) (id : Int), (p.reserve name id).2.buffer = p.buffer := by
    intro p name id
    unfold reserve
    split <;> rfl
  induction scratches generalizing p with
  | nil => rfl
  | cons s scratches ih =>
      have hrest := ih (p.reserve s.name s.frame).2
      rw [hreserve] at hrest
      exact hrest

/-- What an empty press writes of scratch attacks, if there are any. -/
def scratchText? (scratches : List Scratch) : Option String :=
  let fresh := (({} : Press).reserveAll scratches).1
  if fresh.isEmpty then none else some (String.join (fresh.map fun s => s.block.text))

/-- The first of several scratch attacks is always written, for no name is used before it. -/
theorem scratchText?_eq_none_iff (scratches : List Scratch) : scratchText? scratches = none ↔ scratches = [] := by
  cases scratches with
  | nil => exact iff_of_true rfl rfl
  | cons s scratches => exact iff_of_false (by simp [scratchText?, reserveAll, reserve]) (by simp)

/-- A definition of a thing fills the lump of things, and its scratch attacks that of attacks. -/
theorem find?_publish {d : Draft} (hkind : d.kind = .things) (hattack : d.attack = none) (k : LumpKind) :
    (publish {} d).buffer.find? k =
      if k = .attacks then (scratchText? d.scratches).map (LumpKind.attacks.header ++ ·)
      else if k = .things then some (LumpKind.things.header ++ d.block.text)
      else none := by
  have hblock : ∀ k, (((({} : Press).reserveAll d.scratches).2.warn d.warnings).write d.kind d.block.text).buffer.find? k =
      if k = .things then some (LumpKind.things.header ++ d.block.text) else none := by
    intro k
    unfold Press.write warn
    rw [hkind, buffer_reserveAll, Buffer.find?_write]
    rfl
  -- Names are reserved before anything is written, and scratch attacks are written last.
  have hpublish : publish {} d = (((({} : Press).reserveAll d.scratches).2.warn d.warnings).write d.kind
      d.block.text).writeScratches (({} : Press).reserveAll d.scratches).1 := by
    unfold publish
    rw [hattack]
    rfl
  rw [hpublish]
  unfold writeScratches scratchText?
  dsimp only
  by_cases hfresh : (({} : Press).reserveAll d.scratches).1.isEmpty
  · rw [if_pos hfresh, if_pos hfresh, hblock]
    by_cases hk : k = .attacks
    · rw [if_pos hk, hk]
      rfl
    · rw [if_neg hk]
  · rw [if_neg hfresh, if_neg hfresh]
    unfold Press.write at hblock ⊢
    rw [Buffer.find?_write, hblock, hblock]
    rfl

/-- On empty presses two definitions of things fill the same lumps exactly if their texts and the texts of
their scratch attacks are the same. -/
theorem lumps_publish_eq_iff {d d' : Draft} (hkind : d.kind = .things) (hattack : d.attack = none)
    (hkind' : d'.kind = .things) (hattack' : d'.attack = none) :
    (publish {} d).buffer.lumps = (publish {} d').buffer.lumps ↔
      d.block.text = d'.block.text ∧ scratchText? d.scratches = scratchText? d'.scratches := by
  have hheader : ∀ {a b : Option String},
      a.map (LumpKind.attacks.header ++ ·) = b.map (LumpKind.attacks.header ++ ·) ↔ a = b := by
    intro a b
    cases a <;> cases b <;> simp [String.append_right_inj]
  rw [Buffer.lumps_eq_iff]
  constructor
  · intro hall
    have hthings := hall .things (by decide)
    have hattacks := hall .attacks (by decide)
    rw [find?_publish hkind hattack, find?_publish hkind' hattack'] at hthings hattacks
    simp only [reduceCtorEq, if_false, if_true, Option.some.injEq, String.append_right_inj] at hthings
    rw [if_pos rfl, if_pos rfl] at hattacks
    exact ⟨hthings, hheader.1 hattacks⟩
  · rintro ⟨htext, hscratches⟩ k -
    rw [find?_publish hkind hattack, find?_publish hkind' hattack', htext, hscratches]

end Press

namespace Block

/-- How a definition is written down: a line with the name in brackets, and with the number behind a colon if there is
one, a line for every clause, and an empty line. -/
def Spelled (b : Block) (text : String) : Prop :=
  text = "[" ++ b.name ++ (match b.number with | some n => ":" ++ toString n | none => "") ++ "]\n" ++
    String.join (b.clauses.map fun c => c.key ++ " = " ++ c.value ++ ";\n") ++ "\n"

theorem spelled_text (b : Block) : b.Spelled b.text := by
  have hheader : b.header =
      "[" ++ b.name ++ (match b.number with | some n => ":" ++ toString n | none => "") ++ "]\n" := by
    unfold header
    cases b.number with
    | none => simp [toString, String.append_assoc]
    | some n => simp [toString, String.append_assoc]
  have hclause : ∀ c : Clause, c.text = c.key ++ " = " ++ c.value ++ ";\n" := fun c => rfl
  unfold Spelled text
  rw [hheader, List.map_congr_left fun c _ => hclause c]

theorem forall₂_spelled (bs : List Block) : List.Forall₂ Spelled bs (bs.map text) := by
  induction bs with
  | nil => exact .nil
  | cons b bs ih => exact .cons b.spelled_text ih

end Block

/-- Two definitions with the same head, and clauses that are the same before and behind, have the same text
exactly if the clauses between have. -/
theorem Block.text_eq_iff {name : String} {number : Option Int} {front rear between between' : List Clause} :
    (Block.mk name number (front ++ between ++ rear)).text = (Block.mk name number (front ++ between' ++ rear)).text ↔
      String.join (between.map Clause.text) = String.join (between'.map Clause.text) := by
  unfold Block.text Block.header
  simp only [List.map_append, String.join_append, String.append_left_inj, String.append_right_inj]

end DoomPatch
