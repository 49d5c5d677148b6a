import DoomPatch.Proofs.Conversion.Lumps

/-!
# What a press writes, piece by piece

Whatever a press does to its lumps, it writes pieces of text, each to the lump of its kind and each leaving no
lump selected.  So the contents of a lump are the pieces of its kind in order, wherever other lumps were written in
between.

* `Buffer.writeAll`, `Buffer.find?_writeAll` — pieces, and what a lump holds after them.
* `Buffer.Idle` — nothing is selected, and nothing was written while nothing was.
* `Press.Emits` — the pieces that lead from one press to another.
* `Press.publish_emits`, `Press.publishAll_emits`, `Press.convertAll_emits` — the pieces of drafts: outside of the
  lump of attacks each draft gives one piece, whatever was published before.
-/

namespace DoomPatch
namespace Buffer

/-- Writes pieces of text, each to the lump of its kind. -/
def writeAll (b : Buffer) (pieces : List (LumpKind × String)) : Buffer := pieces.foldl (fun b e => b.write e.1 e.2) b

/-- The pieces of a kind. -/
def textsOf (k : LumpKind) (pieces : List (LumpKind × String)) : List String :=
  (pieces.filter fun e => e.1 == k).map (·.2)

theorem textsOf_append (k : LumpKind) (pieces pieces' : List (LumpKind × String)) :
    textsOf k (pieces ++ pieces') = textsOf k pieces ++ textsOf k pieces' := by
  simp [textsOf]

theorem textsOf_cons_self (k : LumpKind) (text : String) (pieces : List (LumpKind × String)) :
    textsOf k ((k, text) :: pieces) = text :: textsOf k pieces := by
  simp [textsOf]

theorem textsOf_cons_of_ne {k k' : LumpKind} (hne : k' ≠ k) (text : String) (pieces : List (LumpKind × String)) :
    textsOf k ((k', text) :: pieces) = textsOf k pieces := by
  simp [textsOf, hne]

theorem textsOf_eq_nil {k : LumpKind} {pieces : List (LumpKind × String)} (hkinds : ∀ e ∈ pieces, e.1 ≠ k) :
    textsOf k pieces = [] := by
  simpa [textsOf] using hkinds

/-- A lump holds the pieces of its kind behind what it held before, or behind its header; without such pieces it
stays as it was. -/
theorem find?_writeAll (b : Buffer) (pieces : List (LumpKind × String)) (k : LumpKind) :
    (b.writeAll pieces).find? k =
      if textsOf k pieces = [] then b.find? k
      else some ((b.find? k).getD k.header ++ String.join (textsOf k pieces)) := by
  unfold writeAll
  induction pieces generalizing b with
  | nil => rfl
  | cons e pieces ih =>
      obtain ⟨kind, text⟩ := e
      rw [List.foldl_cons, ih, find?_write]
      by_cases hkind : k = kind
      · subst hkind
        rw [textsOf_cons_self, if_pos rfl, if_neg (List.cons_ne_nil _ _), Option.getD_some]
        by_cases hlast : textsOf k pieces = []
        · rw [if_pos hlast, hlast]
          simp [String.join]
        · rw [if_neg hlast]
          simp [String.append_assoc]
      · rw [textsOf_cons_of_ne fun h => hkind h.symm, if_neg hkind]

/-- Nothing is selected, and nothing was written while nothing was. -/
structure Idle (b : Buffer) : Prop where
  current : b.current = none
  stray : b.stray = 0

theorem idle_empty : Idle {} := ⟨rfl, rfl⟩

theorem Idle.write {b : Buffer} (hidle : b.Idle) (k : LumpKind) (text : String) : (b.write k text).Idle := by
  refine ⟨rfl, ?_⟩
  -- A kind is selected when the text is printed.
  unfold Buffer.write release print
  rw [current_select]
  exact (b.stray_select k).trans hidle.stray

theorem Idle.writeAll {b : Buffer} (hidle : b.Idle) (pieces : List (LumpKind × String)) :
    (b.writeAll pieces).Idle := by
  unfold Buffer.writeAll
  induction pieces generalizing b with
  | nil => exact hidle
  | cons e pieces ih => exact ih (hidle.write e.1 e.2)

theorem Idle.fault? {b : Buffer} (hidle : b.Idle) : b.fault? = none := by
  unfold Buffer.fault?
  rw [if_pos hidle.stray]

end Buffer

/-- A draft of an attack belongs to the lump of attacks. -/
def Draft.Fits (d : Draft) : Prop := d.attack.isSome → d.kind = .attacks

namespace Press

open Buffer

/-- The pieces that lead from one press to another. -/
def Emits (p q : Press) (pieces : List (LumpKind × String)) : Prop := q.buffer = p.buffer.writeAll pieces

theorem Emits.refl (p : Press) : p.Emits p [] := rfl

theorem Emits.trans {p q r : Press} {pieces pieces' : List (LumpKind × String)} (h : p.Emits q pieces)
    (h' : q.Emits r pieces') : p.Emits r (pieces ++ pieces') := by
  unfold Emits at *
  rw [h', h]
  exact List.foldl_append.symm

theorem write_emits (p : Press) (k : LumpKind) (text : String) : p.Emits (p.write k text) [(k, text)] := rfl

/-- A definition is one piece, and its scratch attacks are another at most. -/
theorem writeDraft_emits (p : Press) (d : Draft) :
    ∃ scratched, p.Emits (p.writeDraft d) ((d.kind, d.block.text) :: scratched) ∧
      ∀ e ∈ scratched, e.1 = .attacks := by
  have hblock : p.Emits (((p.reserveAll d.scratches).2.warn d.warnings).write d.kind d.block.text)
      [(d.kind, d.block.text)] := by
    unfold Emits Press.write warn
    rw [buffer_reserveAll]
    rfl
  unfold writeDraft writeScratches
  dsimp only
  split
  · exact ⟨[], hblock, by simp⟩
  · exact ⟨_, hblock.trans (write_emits _ _ _), by simp⟩

/-- Outside of the lump of attacks a draft gives one piece, its block, whatever names are used. -/
theorem publish_emits (p : Press) {d : Draft} (hfits : d.Fits) :
    ∃ pieces, p.Emits (p.publish d) pieces ∧
      ∀ k, k ≠ .attacks → textsOf k pieces = if d.kind = k then [d.block.text] else [] := by
  have htexts : ∀ {scratched : List (LumpKind × String)}, (∀ e ∈ scratched, e.1 = .attacks) → ∀ k, k ≠ .attacks →
      textsOf k ((d.kind, d.block.text) :: scratched) = if d.kind = k then [d.block.text] else [] := by
    intro scratched hscratched k hk
    have hrest : textsOf k scratched = [] := textsOf_eq_nil fun e he heq => hk (heq.symm.trans (hscratched e he))
    by_cases hkind : d.kind = k
    · rw [if_pos hkind, hkind, textsOf_cons_self, hrest]
    · rw [if_neg hkind, textsOf_cons_of_ne hkind, hrest]
  unfold publish
  cases hattack : d.attack with
  | none =>
      obtain ⟨scratched, hemits, hscratched⟩ := p.writeDraft_emits d
      exact ⟨_, hemits, htexts hscratched⟩
  | some id =>
      have hkind : d.kind = .attacks := hfits (by rw [hattack]; rfl)
      have hreserve : p.Emits (p.reserve d.block.name id).2 [] := by
        unfold Emits reserve
        split <;> rfl
      dsimp only
      split
      · obtain ⟨scratched, hemits, hscratched⟩ := (p.reserve d.block.name id).2.writeDraft_emits d
        exact ⟨_, hreserve.trans hemits, htexts hscratched⟩
      · refine ⟨[], hreserve, fun k hk => ?_⟩
        rw [if_neg fun h => hk (h.symm.trans hkind)]
        rfl

/-- Drafts are all published, and outside of the lump of attacks they give their blocks in order. -/
theorem publishAll_emits (p : Press) {ds : List Draft} (hfits : ∀ d ∈ ds, d.Fits) :
    ∃ q pieces, p.publishAll (ds.map .ok) = (q, none) ∧ p.Emits q pieces ∧
      ∀ k, k ≠ .attacks → textsOf k pieces = (ds.filter fun d => d.kind == k).map (·.block.text) := by
  induction ds generalizing p with
  | nil => exact ⟨p, [], rfl, .refl p, fun _ _ => rfl⟩
  | cons d ds ih =>
      obtain ⟨first, hfirst, htexts⟩ := p.publish_emits (hfits d List.mem_cons_self)
      obtain ⟨q, pieces, hq, hemits, hrest⟩ := ih (p.publish d) fun d' hd' => hfits d' (List.mem_cons_of_mem d hd')
      refine ⟨q, first ++ pieces, hq, hfirst.trans hemits, fun k hk => ?_⟩
      rw [textsOf_append, htexts k hk, hrest k hk, List.filter_cons]
      by_cases hkind : d.kind = k <;> simp [hkind]

/-- At most a piece of one kind is written. -/
theorem emits_of_eq_or_write {p q : Press} {k : LumpKind} (hstep : q = p ∨ ∃ text, q = p.write k text) :
    ∃ pieces, p.Emits q pieces ∧ ∀ e ∈ pieces, e.1 = k := by
  rcases hstep with rfl | ⟨text, rfl⟩
  · exact ⟨[], .refl _, by simp⟩
  · exact ⟨_, write_emits p k text, by simp⟩

theorem convertSounds_step (p : Press) (s : Session) :
    p.convertSounds s = p ∨ ∃ text, p.convertSounds s = p.write .sounds text := by
  unfold convertSounds
  split
  · exact .inl rfl
  · exact .inr ⟨_, rfl⟩

theorem convertLanguage_step (p : Press) (s : Session) :
    p.convertLanguage s = p ∨ ∃ text, p.convertLanguage s = p.write .language text := by
  unfold convertLanguage
  split
  · exact .inl rfl
  · exact .inr ⟨_, rfl⟩

theorem convertTriggers_step (p : Press) (v : View) :
    p.convertTriggers v = p ∨ ∃ text, p.convertTriggers v = p.write .triggers text := by
  unfold convertTriggers
  split
  · exact .inl rfl
  · exact .inr ⟨_, rfl⟩

/-- If all drafts can be made, everything is converted; the lumps of things and of weapons hold the blocks of
their drafts in order. -/
theorem convertAll_emits (p : Press) {v : View} {ds : List Draft} (hdrafts : Conversion.drafts v = ds.map .ok)
    (hfits : ∀ d ∈ ds, d.Fits) :
    ∃ q pieces, p.convertAll v = (q, none) ∧ p.Emits q pieces ∧
      ∀ k, k = .things ∨ k = .weapons → textsOf k pieces = (ds.filter fun d => d.kind == k).map (·.block.text) := by
  obtain ⟨q, pieces, hq, hemits, htexts⟩ := p.publishAll_emits hfits
  obtain ⟨sounds, hsounds, hkind₁⟩ := emits_of_eq_or_write (q.convertSounds_step v.session)
  obtain ⟨language, hlanguage, hkind₂⟩ :=
    emits_of_eq_or_write ((q.convertSounds v.session).convertLanguage_step v.session)
  obtain ⟨triggers, htriggers, hkind₃⟩ :=
    emits_of_eq_or_write (((q.convertSounds v.session).convertLanguage v.session).convertTriggers_step v)
  refine ⟨_, _, ?_, ((hemits.trans hsounds).trans hlanguage).trans htriggers, fun k hk => ?_⟩
  · unfold convertAll
    rw [hdrafts, hq]
  · -- What follows the entities goes to lumps of its own.
    have hown : ∀ {kind : LumpKind} {rest : List (LumpKind × String)}, (∀ e ∈ rest, e.1 = kind) →
        kind ≠ .things → kind ≠ .weapons → textsOf k rest = [] := by
      intro kind rest hkinds hthings hweapons
      refine textsOf_eq_nil fun e he heq => ?_
      rcases hk with rfl | rfl
      · exact hthings ((hkinds e he).symm.trans heq)
      · exact hweapons ((hkinds e he).symm.trans heq)
    have hentities : k ≠ .attacks := by rcases hk with rfl | rfl <;> decide
    rw [textsOf_append, textsOf_append, textsOf_append, hown hkind₁ (by decide) (by decide),
      hown hkind₂ (by decide) (by decide), hown hkind₃ (by decide) (by decide), htexts k hentities]
    simp

end Press
end DoomPatch
