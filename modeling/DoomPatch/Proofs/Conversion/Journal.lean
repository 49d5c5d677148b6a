import DoomPatch.Proofs.Conversion.Arming
import DoomPatch.Proofs.Conversion.Pieces

/-!
# The definitions that a press has written

A journal lists the definitions that were written, each with the kind of its lump.  Beside the text of its lumps a press
keeps the names of attacks that are used, and the journal shows that these are the names of the attacks that were
written: none is reserved without being written, and none is written twice.

* `blocksOf` — the definitions of a kind.
* `Press.publishBlocks`, `Press.publishAllBlocks`, `Press.convertAllBlocks` — what the steps of a press write.
* `Press.Wrote` — definitions have been written behind what the lumps held, as definitions are written down.
* `Press.Journal` — a journal fits a press.
* `Journal.publish`, `Journal.publishAll`, `Journal.convertAll` — every step extends a journal that fits.
-/

namespace DoomPatch

/-- The definitions of a kind in a journal. -/
def blocksOf (k : LumpKind) (log : List (LumpKind × Block)) : List Block := (log.filter fun e => e.1 == k).map (·.2)

@[simp] theorem blocksOf_nil (k : LumpKind) : blocksOf k [] = [] := rfl

@[simp] theorem blocksOf_append (k : LumpKind) (log log' : List (LumpKind × Block)) :
    blocksOf k (log ++ log') = blocksOf k log ++ blocksOf k log' := by
  simp [blocksOf]

@[simp] theorem blocksOf_cons (k kind : LumpKind) (b : Block) (log : List (LumpKind × Block)) :
    blocksOf k ((kind, b) :: log) = if kind = k then b :: blocksOf k log else blocksOf k log := by
  unfold blocksOf
  by_cases hkind : kind = k <;> simp [hkind]

/-- Definitions that all go to one lump. -/
@[simp] theorem blocksOf_map {α : Type} (k kind : LumpKind) (f : α → Block) (l : List α) :
    blocksOf k (l.map fun a => (kind, f a)) = if kind = k then l.map f else [] := by
  induction l with
  | nil => simp
  | cons a l ih =>
      rw [List.map_cons, blocksOf_cons, ih]
      split <;> rfl

/-- What a lump holds; the header if it was not opened. -/
def Buffer.contents (b : Buffer) (k : LumpKind) : String := (b.find? k).getD k.header

theorem Buffer.contents_write (b : Buffer) (k k' : LumpKind) (text : String) :
    (b.write k text).contents k' = if k' = k then b.contents k ++ text else b.contents k' := by
  unfold contents
  rw [find?_write]
  split
  · next heq => rw [heq, Option.getD_some]
  · rfl

/-- A definition is that of a draft, or that of one of its scratch attacks. -/
def Draft.Has (d : Draft) (b : Block) : Prop := b = d.block ∨ ∃ a ∈ d.scratches, b = a.block

namespace Press

/-! ### Reserving names -/

/-- A name is reserved exactly if it is not used yet. -/
theorem reserve_cases (p : Press) (name : String) (id : Int) :
    (name ∈ p.used ∧ (p.reserve name id).1 = false ∧ (p.reserve name id).2.used = p.used) ∨
      (name ∉ p.used ∧ (p.reserve name id).1 = true ∧ (p.reserve name id).2.used = p.used ++ [name]) := by
  unfold reserve
  by_cases hused : name ∈ p.used
  · left
    simp [hused, warn]
  · right
    simp [hused]

theorem buffer_reserve (p : Press) (name : String) (id : Int) : (p.reserve name id).2.buffer = p.buffer := by
  unfold reserve
  split <;> rfl

/-- The names used grow by those of the scratch attacks that are to be written. -/
theorem used_reserveAll (p : Press) (scratches : List Scratch) :
    (p.reserveAll scratches).2.used = p.used ++ (p.reserveAll scratches).1.map (·.name) := by
  induction scratches generalizing p with
  | nil => simp [reserveAll]
  | cons s rest ih =>
      rw [reserveAll_cons]
      dsimp only
      rw [ih]
      rcases p.reserve_cases s.name s.frame with ⟨-, hfresh, hsame⟩ | ⟨-, hfresh, hgrown⟩
      · simp [hfresh, hsame]
      · simp [hfresh, hgrown]

theorem nodup_reserve {p : Press} (hp : p.used.Nodup) (name : String) (id : Int) :
    (p.reserve name id).2.used.Nodup := by
  rcases p.reserve_cases name id with ⟨-, -, hsame⟩ | ⟨hnew, -, hgrown⟩
  · rw [hsame]
    exact hp
  · rw [hgrown, List.nodup_append]
    refine ⟨hp, by simp, ?_⟩
    intro used hused other hother heq
    rw [List.mem_singleton] at hother
    exact hnew (hother ▸ heq ▸ hused)

theorem nodup_reserveAll {p : Press} (hp : p.used.Nodup) (scratches : List Scratch) :
    (p.reserveAll scratches).2.used.Nodup := by
  induction scratches generalizing p with
  | nil => exact hp
  | cons s rest ih => exact ih (nodup_reserve hp s.name s.frame)

/-- Whether a scratch attack is written or was before, its name is used in the end. -/
theorem mem_used_reserveAll {p : Press} {scratches : List Scratch} {s : Scratch} (hs : s ∈ scratches) :
    s.name ∈ (p.reserveAll scratches).2.used := by
  induction scratches generalizing p with
  | nil => cases hs
  | cons s' rest ih =>
      rcases List.mem_cons.1 hs with rfl | hs
      · rw [reserveAll_cons]
        dsimp only
        rw [used_reserveAll]
        apply List.mem_append_left
        rcases p.reserve_cases s.name s.frame with ⟨hused, -, hsame⟩ | ⟨-, -, hgrown⟩
        · rw [hsame]
          exact hused
        · rw [hgrown]
          simp
      · exact ih hs

/-- Only scratch attacks that were given are to be written. -/
theorem mem_of_mem_reserveAll {p : Press} {scratches : List Scratch} {s : Scratch}
    (hs : s ∈ (p.reserveAll scratches).1) : s ∈ scratches := by
  induction scratches generalizing p with
  | nil => cases hs
  | cons s' rest ih =>
      rw [reserveAll_cons] at hs
      dsimp only at hs
      split at hs
      · rcases List.mem_cons.1 hs with rfl | hs
        · exact List.mem_cons_self
        · exact List.mem_cons_of_mem _ (ih hs)
      · exact List.mem_cons_of_mem _ (ih hs)

/-! ### What is written -/

/-- The definitions that writing a draft adds: its own, and those of its scratch attacks that are new. -/
def draftBlocks (p : Press) (d : Draft) : List (LumpKind × Block) :=
  (d.kind, d.block) :: (p.reserveAll d.scratches).1.map fun s => (.attacks, s.block)

/-- The definitions that publishing a draft adds. -/
def publishBlocks (p : Press) (d : Draft) : List (LumpKind × Block) :=
  match d.attack with
  | none => p.draftBlocks d
  | some id =>
    let (fresh, p) := p.reserve d.block.name id
    if fresh then p.draftBlocks d else []

/-- The definitions that publishing drafts adds, up to the first that cannot be made. -/
def publishAllBlocks (p : Press) : List (Except ConversionError Draft) → List (LumpKind × Block)
  | [] => []
  | .ok d :: rest => p.publishBlocks d ++ (p.publish d).publishAllBlocks rest
  | .error _ :: _ => []

/-- The definitions that converting everything adds. -/
def convertAllBlocks (p : Press) (v : View) : List (LumpKind × Block) :=
  p.publishAllBlocks (Conversion.drafts v) ++
    match (p.publishAll (Conversion.drafts v)).2 with
    | some _ => []
    | none =>
      (SoundDefinition.all v.session).map (fun b => (.sounds, b)) ++
        if v.session.texts.isEmpty then [] else [(.language, LanguageDefinition.block v.session.texts.entries)]

/-- Publishing a draft adds nothing but its definition and those of its scratch attacks. -/
theorem has_of_mem_publishBlocks {p : Press} {d : Draft} {e : LumpKind × Block} (he : e ∈ p.publishBlocks d) :
    d.Has e.2 := by
  have hdraft : ∀ {p : Press}, e ∈ p.draftBlocks d → d.Has e.2 := by
    intro p he
    rcases List.mem_cons.1 he with rfl | he
    · exact .inl rfl
    · obtain ⟨a, ha, rfl⟩ := List.mem_map.1 he
      exact .inr ⟨a, mem_of_mem_reserveAll ha, rfl⟩
  unfold publishBlocks at he
  split at he
  · exact hdraft he
  · dsimp only at he
    split at he
    · exact hdraft he
    · cases he

theorem exists_of_mem_publishAllBlocks {p : Press} {ds : List (Except ConversionError Draft)} {e : LumpKind × Block}
    (he : e ∈ p.publishAllBlocks ds) : ∃ d, .ok d ∈ ds ∧ d.Has e.2 := by
  induction ds generalizing p with
  | nil => cases he
  | cons d ds ih =>
      cases d with
      | error err => cases he
      | ok d =>
          rcases List.mem_append.1 he with he | he
          · exact ⟨d, List.mem_cons_self, has_of_mem_publishBlocks he⟩
          · obtain ⟨d', hd', hhas⟩ := ih he
            exact ⟨d', List.mem_cons_of_mem _ hd', hhas⟩

/-- Apart from sounds and messages, converting everything adds definitions of drafts and of their scratch attacks. -/
theorem exists_of_mem_convertAllBlocks {p : Press} {v : View} {e : LumpKind × Block}
    (he : e ∈ p.convertAllBlocks v) (hsounds : e.1 ≠ .sounds) (hlanguage : e.1 ≠ .language) :
    ∃ d, .ok d ∈ Conversion.drafts v ∧ d.Has e.2 := by
  rcases List.mem_append.1 he with he | he
  · exact exists_of_mem_publishAllBlocks he
  · split at he
    · cases he
    · rcases List.mem_append.1 he with he | he
      · obtain ⟨b, -, rfl⟩ := List.mem_map.1 he
        exact absurd rfl hsounds
      · split at he
        · cases he
        · exact absurd (congrArg Prod.fst (List.mem_singleton.1 he)) hlanguage

/-- From one press to another definitions have been written: each lump has them behind what it held, as definitions are
written down.  The lump of triggers holds no definitions. -/
def Wrote (p q : Press) (log : List (LumpKind × Block)) : Prop :=
  ∀ k, k ≠ .triggers → ∃ texts, List.Forall₂ Block.Spelled (blocksOf k log) texts ∧
    q.buffer.contents k = p.buffer.contents k ++ String.join texts

/-- A journal fits a press: the lumps hold the texts of the definitions, the names used are those of the attacks among
them, no two of these are the same, and every scratch attack that is struck with is there.  The lump of triggers holds
no definitions. -/
structure Journal (p : Press) (log : List (LumpKind × Block)) : Prop where
  contents : ∀ k, k ≠ .triggers → p.buffer.contents k = k.header ++ String.join ((blocksOf k log).map Block.text)
  used : p.used = (blocksOf .attacks log).map (·.name)
  distinct : p.used.Nodup
  struck : ∀ e ∈ log, ∀ name, e.2.Strikes name → IsScratchName name → name ∈ p.used

theorem journal_nil : Journal {} [] where
  contents := by
    intro k hk
    simp [Buffer.contents, Buffer.find?, String.join]
  used := rfl
  distinct := List.nodup_nil
  struck := by simp

namespace Journal

variable {p q : Press} {log : List (LumpKind × Block)}

/-- More definitions keep a journal fitting if the press has written them. -/
theorem extend (hp : p.Journal log) {more : List (LumpKind × Block)}
    (hcontents : ∀ k, k ≠ .triggers →
      q.buffer.contents k = p.buffer.contents k ++ String.join ((blocksOf k more).map Block.text))
    (hused : q.used = p.used ++ (blocksOf .attacks more).map (·.name)) (hdistinct : q.used.Nodup)
    (hstruck : ∀ e ∈ more, ∀ name, e.2.Strikes name → IsScratchName name → name ∈ q.used) :
    q.Journal (log ++ more) where
  contents := by
    intro k hk
    rw [hcontents k hk, hp.contents k hk]
    simp [String.append_assoc]
  used := by
    rw [hused, hp.used]
    simp
  distinct := hdistinct
  struck := by
    intro e he name hstrikes hname
    rcases List.mem_append.1 he with he | he
    · rw [hused]
      exact List.mem_append_left _ (hp.struck e he name hstrikes hname)
    · exact hstruck e he name hstrikes hname

/-- A press that began empty has written the definitions of its journal. -/
theorem wrote (hp : p.Journal log) : Wrote {} p log := fun k hk => ⟨_, Block.forall₂_spelled _, hp.contents k hk⟩

/-- What warnings a press has left does not matter. -/
theorem congr (hp : p.Journal log) (hbuffer : q.buffer = p.buffer) (hused : q.used = p.used) : q.Journal log where
  contents := hbuffer ▸ hp.contents
  used := hused.trans hp.used
  distinct := hused ▸ hp.distinct
  struck := hused ▸ hp.struck

end Journal

/-! ### Publishing -/

theorem contents_writeDraft (p : Press) (d : Draft) (k : LumpKind) :
    (p.writeDraft d).buffer.contents k =
      p.buffer.contents k ++ String.join ((blocksOf k (p.draftBlocks d)).map Block.text) := by
  -- The definition is written first, and then the scratch attacks in one go.
  have hblock : (((p.reserveAll d.scratches).2.warn d.warnings).write d.kind d.block.text).buffer.contents k =
      p.buffer.contents k ++ if d.kind = k then d.block.text else "" := by
    change (((p.reserveAll d.scratches).2.buffer).write d.kind d.block.text).contents k = _
    rw [buffer_reserveAll, Buffer.contents_write]
    by_cases hkind : d.kind = k
    · rw [if_pos hkind.symm, if_pos hkind, hkind]
    · rw [if_neg fun h => hkind h.symm, if_neg hkind]
      simp
  have hscratches : ∀ (p : Press) (fresh : List Scratch), (p.writeScratches fresh).buffer.contents k =
      p.buffer.contents k ++
        String.join ((blocksOf k (fresh.map fun s => (.attacks, s.block))).map Block.text) := by
    intro p fresh
    rw [blocksOf_map]
    unfold writeScratches
    by_cases hfresh : fresh.isEmpty
    · rw [if_pos hfresh]
      obtain rfl := List.isEmpty_iff.1 hfresh
      simp
    · rw [if_neg hfresh]
      unfold write
      rw [Buffer.contents_write]
      by_cases hattacks : LumpKind.attacks = k
      · subst hattacks
        simp [Function.comp_def]
      · rw [if_neg fun h => hattacks h.symm, if_neg hattacks]
        simp
  unfold writeDraft
  dsimp only
  rw [hscratches, hblock]
  unfold draftBlocks
  by_cases hkind : d.kind = k
  · simp [hkind, String.append_assoc]
  · simp [hkind]

theorem contents_publish (p : Press) (d : Draft) (k : LumpKind) :
    (p.publish d).buffer.contents k =
      p.buffer.contents k ++ String.join ((blocksOf k (p.publishBlocks d)).map Block.text) := by
  unfold publish publishBlocks
  cases d.attack with
  | none => exact p.contents_writeDraft d k
  | some id =>
      dsimp only
      split
      · rw [contents_writeDraft, buffer_reserve]
      · rw [buffer_reserve]
        simp

theorem wrote_publish (p : Press) (d : Draft) : p.Wrote (p.publish d) (p.publishBlocks d) :=
  fun k _ => ⟨_, Block.forall₂_spelled _, p.contents_publish d k⟩

/-- A definition that is no attack goes behind what its lump holds. -/
theorem find?_publish_plain (p : Press) {d : Draft} (hattack : d.attack = none) (hkind : d.kind ≠ .attacks) :
    ∃ text, d.block.Spelled text ∧
      (p.publish d).buffer.find? d.kind = some (p.buffer.contents d.kind ++ text) := by
  obtain ⟨pieces, hemits, htexts⟩ := p.publish_emits (d := d) fun h => by simp [hattack] at h
  have hpiece : Buffer.textsOf d.kind pieces = [d.block.text] := by rw [htexts d.kind hkind, if_pos rfl]
  refine ⟨_, d.block.spelled_text, ?_⟩
  rw [hemits, Buffer.find?_writeAll, hpiece, if_neg (List.cons_ne_nil _ _)]
  simp [Buffer.contents, String.join]

theorem used_writeDraft (p : Press) (d : Draft) : (p.writeDraft d).used = (p.reserveAll d.scratches).2.used := by
  unfold writeDraft writeScratches
  dsimp only
  split <;> rfl

/-- All that a written draft strikes with is used, if the draft has the scratch attacks. -/
theorem struck_draftBlocks {p : Press} {d : Draft} (hd : d.Armed) {e : LumpKind × Block} (he : e ∈ p.draftBlocks d)
    {name : String} (hstrikes : e.2.Strikes name) (hname : IsScratchName name) : name ∈ (p.writeDraft d).used := by
  rw [used_writeDraft]
  rcases List.mem_cons.1 he with rfl | he
  · obtain ⟨s, hs, rfl⟩ := hd.scratches name hstrikes hname
    exact mem_used_reserveAll hs
  · obtain ⟨s, -, rfl⟩ := List.mem_map.1 he
    exact absurd hstrikes (s.quiets_block.not_strikes name)

/-- Publishing a draft extends the journal. -/
theorem Journal.publish {p : Press} {log : List (LumpKind × Block)} (hp : p.Journal log) {d : Draft} (hd : d.Armed) :
    (p.publish d).Journal (log ++ p.publishBlocks d) := by
  unfold Press.publish publishBlocks
  cases hattack : d.attack with
  | none =>
      have hkind : d.kind ≠ .attacks := fun h => by simpa [hattack] using hd.attack.2 h
      refine hp.extend (fun k _ => p.contents_writeDraft d k) ?_ ?_ fun e he name => struck_draftBlocks hd he
      · rw [used_writeDraft, used_reserveAll]
        simp [draftBlocks, hkind, Scratch.block, Function.comp_def]
      · rw [used_writeDraft]
        exact nodup_reserveAll hp.distinct d.scratches
  | some id =>
      have hkind : d.kind = .attacks := hd.attack.1 (by rw [hattack]; rfl)
      dsimp only
      rcases p.reserve_cases d.block.name id with ⟨-, hfresh, hsame⟩ | ⟨-, hfresh, hgrown⟩
      · rw [hfresh]
        simp only [Bool.false_eq_true, if_false, List.append_nil]
        exact hp.congr (p.buffer_reserve _ _) hsame
      · rw [hfresh]
        simp only [if_true]
        refine hp.extend (fun k _ => ?_) ?_ ?_ fun e he name => struck_draftBlocks hd he
        · rw [contents_writeDraft, buffer_reserve]
        · rw [used_writeDraft, used_reserveAll, hgrown]
          simp [draftBlocks, hkind, Scratch.block, Function.comp_def]
        · rw [used_writeDraft]
          exact nodup_reserveAll (nodup_reserve hp.distinct _ _) d.scratches

theorem Journal.publishAll {p : Press} {log : List (LumpKind × Block)} (hp : p.Journal log)
    {ds : List (Except ConversionError Draft)} (hds : ∀ d, .ok d ∈ ds → d.Armed) :
    (p.publishAll ds).1.Journal (log ++ p.publishAllBlocks ds) := by
  induction ds generalizing p log with
  | nil => simpa [Press.publishAll, publishAllBlocks] using hp
  | cons d ds ih =>
      cases d with
      | error e => simpa [Press.publishAll, publishAllBlocks] using hp
      | ok d =>
          have hhead := hp.publish (hds d List.mem_cons_self)
          have hrest := ih hhead fun d' hd' => hds d' (List.mem_cons_of_mem _ hd')
          rw [List.append_assoc] at hrest
          exact hrest

/-! ### Converting everything -/

/-- Writing definitions that are no attacks and never strike extends the journal. -/
theorem Journal.write {p : Press} {log : List (LumpKind × Block)} (hp : p.Journal log) {kind : LumpKind}
    (hkind : kind ≠ .attacks) {blocks : List Block} (hquiet : ∀ b ∈ blocks, Quiets b.clauses) :
    (p.write kind (String.join (blocks.map Block.text))).Journal (log ++ blocks.map fun b => (kind, b)) := by
  refine hp.extend (fun k _ => ?_) ?_ hp.distinct ?_
  · unfold Press.write
    rw [Buffer.contents_write, blocksOf_map]
    by_cases heq : kind = k
    · rw [if_pos heq.symm, if_pos heq, heq]
      simp
    · rw [if_neg fun h => heq h.symm, if_neg heq]
      simp
  · rw [blocksOf_map, if_neg hkind]
    simp [Press.write]
  · intro e he name hstrikes
    obtain ⟨b, hb, rfl⟩ := List.mem_map.1 he
    exact absurd hstrikes ((hquiet b hb).not_strikes name)

theorem quiets_sound (id : Int) (snd : Sound) : Quiets (SoundDefinition.block id snd).clauses := by
  unfold SoundDefinition.block
  dsimp only
  simp (disch := decide) only [quiets_append, quiets_cons, quiets_nil, quiets_clauseIf, and_self]

theorem Journal.convertSounds {p : Press} {log : List (LumpKind × Block)} (hp : p.Journal log) (s : Session) :
    (p.convertSounds s).Journal (log ++ (SoundDefinition.all s).map fun b => (.sounds, b)) := by
  unfold Press.convertSounds
  split
  · next hempty =>
    have hnone : SoundDefinition.all s = [] := by
      unfold SoundDefinition.all
      rw [List.isEmpty_iff.1 hempty]
      rfl
    rw [hnone]
    simpa using hp
  · refine hp.write (by decide) fun b hb => ?_
    obtain ⟨e, -, rfl⟩ := List.mem_map.1 hb
    exact quiets_sound e.1 e.2

theorem Journal.convertLanguage {p : Press} {log : List (LumpKind × Block)} (hp : p.Journal log) {s : Session}
    (hrefs : ∀ e ∈ s.texts.entries, quietKey e.1 = true) :
    (p.convertLanguage s).Journal (log ++
      if s.texts.isEmpty then [] else [(.language, LanguageDefinition.block s.texts.entries)]) := by
  have hquiet : Quiets (LanguageDefinition.block s.texts.entries).clauses := by
    intro c hc
    obtain ⟨e, he, rfl⟩ := List.mem_map.1 hc
    exact hrefs e he
  unfold Press.convertLanguage
  split
  · simpa using hp
  · have hblocks : ∀ b ∈ [LanguageDefinition.block s.texts.entries], Quiets b.clauses := by simpa using hquiet
    have hkind : LumpKind.language ≠ .attacks := by decide
    simpa using hp.write hkind hblocks

theorem Journal.convertTriggers {p : Press} {log : List (LumpKind × Block)} (hp : p.Journal log) (v : View) :
    (p.convertTriggers v).Journal log := by
  unfold Press.convertTriggers
  split
  · exact hp
  · refine ⟨fun k hk => ?_, hp.used, hp.distinct, hp.struck⟩
    unfold Press.write
    rw [Buffer.contents_write, if_neg hk]
    exact hp.contents k hk

/-- Converting everything extends the journal, whether it runs to the end or not. -/
theorem Journal.convertAll {p : Press} {log : List (LumpKind × Block)} (hp : p.Journal log) {v : View} (hv : v.Tidy) :
    (p.convertAll v).1.Journal (log ++ p.convertAllBlocks v) := by
  have hdrafts := hp.publishAll fun d => Draft.armed_of_mem_drafts hv
  unfold Press.convertAll convertAllBlocks
  generalize p.publishAll (Conversion.drafts v) = result at hdrafts ⊢
  obtain ⟨q, error⟩ := result
  cases error with
  | some e => simpa using hdrafts
  | none =>
      have hsounds := hdrafts.convertSounds v.session
      have hlanguage := hsounds.convertLanguage hv.texts
      rw [List.append_assoc, List.append_assoc] at hlanguage
      exact hlanguage.convertTriggers v

end Press
end DoomPatch
