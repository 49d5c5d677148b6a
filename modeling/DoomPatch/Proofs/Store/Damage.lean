import DoomPatch.Proofs.Store.Apart
import DoomPatch.Proofs.Store.Hash

/-!
# Damaged runs

The texts of the lumps of a stored run may be changed or deleted behind the back of the store.  A directory keeps a list
of digests and looks for the text of each, so it loads a run only if every text is as it was stored.  A hash server is
asked for the texts that are there, and each of them is looked up among the digests; so a run of which texts were
deleted is loaded without these lumps.

* `LumpChange`, `textAfter` — changes to the texts of a run, and what is left of a text behind them.
* `Store.tamperAll` — the medium behind changes to the texts of a run.
* `Directory.Altered`, `HashStore.Altered` — a run is stored but for changes to its texts; every change keeps it so.
* `Store.load_tampered` — what is loaded of a run behind changes to its texts.
-/

namespace DoomPatch

/-- A change to a stored lump: the text that it gets.  Without one, the text of the lump is deleted. -/
structure LumpChange where
  name : String
  text : Option String

/-- The text of a stored lump behind changes. -/
def textAfter (changes : List LumpChange) (l : Lump) : Option String :=
  changes.foldl (fun text c => if c.name = l.name then c.text else text) (some l.text)

@[simp] theorem textAfter_nil (l : Lump) : textAfter [] l = some l.text := rfl

theorem textAfter_concat (changes : List LumpChange) (c : LumpChange) (l : Lump) :
    textAfter (changes ++ [c]) l = if c.name = l.name then c.text else textAfter changes l := by
  unfold textAfter
  rw [List.foldl_append]
  rfl

/-- What each change keeps, of the stored texts and of the changes so far, holds after all of them. -/
theorem LumpChange.foldl_keeps {σ : Type} {tamper : σ → LumpChange → σ} (holds : σ → List LumpChange → Prop)
    {changes before : List LumpChange}
    (hstep : ∀ c ∈ changes, ∀ x before, holds x before → holds (tamper x c) (before ++ [c])) {x : σ}
    (hx : holds x before) : holds (changes.foldl tamper x) (before ++ changes) := by
  induction changes generalizing x before with
  | nil =>
      rw [List.append_nil]
      exact hx
  | cons c changes ih =>
      obtain ⟨hc, hstep⟩ := List.forall_mem_cons.1 hstep
      rw [List.append_cons]
      exact ih hstep (hc x before hx)

/-- The lumps of a buffer, by kind. -/
theorem Buffer.forall_mem_lumps_iff {b : Buffer} {p : Lump → Prop} :
    (∀ l ∈ b.lumps, p l) ↔ ∀ k ∈ LumpKind.all, ∀ text, b.find? k = some text → p ⟨k, k.name, text⟩ := by
  refine ⟨fun hall k hk text hfind => hall _ (mem_lumps_iff.2 ⟨hk, rfl, hfind⟩), fun hall l hl => ?_⟩
  obtain ⟨hkind, hname, hfind⟩ := mem_lumps_iff.1 hl
  obtain ⟨kind, name, text⟩ := l
  obtain rfl : name = kind.name := hname
  exact hall kind hkind text hfind

/-- No text that a lump was given has the digest of the text that it replaced. -/
def Distinguished (r : Run) (changes : List LumpChange) : Prop :=
  ∀ l ∈ r.lumps, ∀ text, textAfter changes l = some text → Digest.ofText text = Digest.ofText l.text → text = l.text

/-- A text passes the check against a written digest if it has the digest. -/
theorem StoreError.check_eq_ok_iff (id name : String) {text stored : String} :
    check id name text (Digest.text (Digest.ofText stored)) = .ok () ↔ Digest.ofText text = Digest.ofText stored := by
  unfold check
  rw [Digest.read?_text]
  dsimp only
  split <;> simp_all

/-- A lump is loaded in front of others if it passes the check and they are loaded. -/
theorem checked_eq_ok_iff {id name text stored : String} {l : Lump} {rest : Except StoreError (List Lump)}
    {lumps : List Lump} :
    (match StoreError.check id name text (Digest.text (Digest.ofText stored)) with
      | .error e => Except.error e
      | .ok () => rest.map fun ls => l :: ls) = .ok lumps ↔
      Digest.ofText text = Digest.ofText stored ∧ ∃ ls, rest = .ok ls ∧ lumps = l :: ls := by
  rw [← StoreError.check_eq_ok_iff id name]
  cases StoreError.check id name text (Digest.text (Digest.ofText stored)) with
  | error e => simp
  | ok u => cases rest <;> simp [Except.map, eq_comm]

/-! ### Directories -/

namespace Directory

variable {d : Directory} {t : FileTree} {dir : Path} {r : Run} {b : Buffer} {changes : List LumpChange}

/-- Changes the text of a lump of a run. -/
def tamper (dir : Path) (t : FileTree) (c : LumpChange) : FileTree :=
  match c.text with
  | some text => t.put (lumpFile dir c.name) (.file text)
  | none => t.drop (lumpFile dir c.name)

theorem at?_tamper_of_not_above {c : LumpChange} {q : Path} (habove : ¬(lumpFile dir c.name).Above t.home q) :
    (tamper dir t c).at? q = t.at? q := by
  unfold tamper
  split
  · exact FileTree.at?_put_of_ne t (fun heq => habove (Path.above_of_names_eq heq.symm)) _
  · exact t.at?_drop_of_not_above habove

theorem at?_tamper_self {c : LumpChange} (htakes : t.Takes (lumpFile dir c.name))
    (hordinary : FileTree.Ordinary t.home (lumpFile dir c.name)) :
    (tamper dir t c).at? (lumpFile dir c.name) = c.text.map .file := by
  unfold tamper
  split
  · next text htext =>
    rw [htext]
    exact FileTree.at?_put_self htakes hordinary _
  · next htext =>
    rw [htext]
    exact t.at?_drop_of_above hordinary (List.prefix_refl _)

/-- A run is stored in a directory, but for changes to the texts of its lumps. -/
structure Altered (t : FileTree) (dir : Path) (r : Run) (changes : List LumpChange) : Prop where
  manifest : t.read (dir.child "run.toml") = .ok (Manifest.ofRun r).text
  lumps : ∀ l ∈ r.lumps, t.at? (dir.child (l.name ++ ".txt")) = (textAfter changes l).map .file
  passable : ∀ l ∈ r.lumps, (dir.child (l.name ++ ".txt")).Passable

theorem Stores.altered (hstores : Stores t dir r) : Altered t dir r [] where
  manifest := hstores.manifest
  lumps := fun l hl => (FileTree.read_child_eq_ok_iff.1 (hstores.lumps l hl)).2
  passable := fun l hl => (FileTree.read_child_eq_ok_iff.1 (hstores.lumps l hl)).1

/-- The text of a lump can be read as long as it is there. -/
theorem Altered.read_eq_ok_iff (halt : Altered t dir r changes) {l : Lump} (hl : l ∈ r.lumps) {text : String} :
    t.read (dir.child (l.name ++ ".txt")) = .ok text ↔ textAfter changes l = some text := by
  rw [FileTree.read_child_eq_ok_iff, halt.lumps l hl, and_iff_right (halt.passable l hl)]
  simp

theorem Altered.tamper (hb : r.lumps = b.lumps) (halt : Altered t dir r changes) {c : LumpChange}
    (hc : c.name ∈ r.lumps.map Lump.name) : Altered (tamper dir t c) dir r (changes ++ [c]) := by
  obtain ⟨hfiles, -, hmanifest⟩ := fileNames_of_lumps hb
  obtain ⟨l, hl, hname⟩ := List.mem_map.1 hc
  have hfile : lumpFile dir c.name = dir.child (l.name ++ ".txt") := by rw [← hname, lumpFile_eq dir (hfiles l hl)]
  -- What is beside the file of the lump stays.
  have hbeside : ∀ {name : String}, name ≠ l.name ++ ".txt" →
      (Directory.tamper dir t c).at? (dir.child name) = t.at? (dir.child name) := by
    intro name hne
    refine at?_tamper_of_not_above fun habove => ?_
    rw [hfile] at habove
    exact (Path.child_apart_child hne.symm).1 habove
  -- The directory is there, since the manifest is.
  have htakes : t.Takes (lumpFile dir c.name) := by
    rw [hfile]
    refine ⟨?_, ?_⟩
    · rw [Path.names_child, List.dropLast_concat]
      exact FileTree.at?_of_above_child (FileTree.read_child_eq_ok_iff.1 halt.manifest).2 (List.prefix_refl _)
    · rw [halt.lumps l hl]
      simp
  refine ⟨?_, fun l' hl' => ?_, halt.passable⟩
  · refine FileTree.read_child_of_kept halt.manifest (hbeside ?_)
    exact fun heq => hmanifest (List.mem_map.2 ⟨l, hl, heq.symm⟩)
  · rw [textAfter_concat]
    by_cases hsame : c.name = l'.name
    · rw [if_pos hsame]
      have hfile' : dir.child (l'.name ++ ".txt") = lumpFile dir c.name := by
        rw [hsame, lumpFile_eq dir (hfiles l' hl')]
      rw [hfile']
      exact at?_tamper_self htakes (hfile' ▸ ordinary_fileName _ dir (hfiles l' hl'))
    · rw [if_neg hsame, hbeside fun heq => hsame (hname.symm.trans (String.append_left_inj _ |>.1 heq).symm)]
      exact halt.lumps l' hl'

theorem Altered.tamperAll (hb : r.lumps = b.lumps) (halt : Altered t dir r [])
    (hchanges : ∀ c ∈ changes, c.name ∈ r.lumps.map Lump.name) :
    Altered (changes.foldl (Directory.tamper dir) t) dir r changes :=
  LumpChange.foldl_keeps (fun t changes => Altered t dir r changes)
    (fun c hc _ _ halt => halt.tamper hb (hchanges c hc)) halt

/-- The lumps of some kinds are loaded exactly if none of their texts was changed or deleted. -/
theorem Altered.loadLumps_eq_ok_iff (hb : r.lumps = b.lumps) (halt : Altered t dir r changes)
    (hdistinct : Distinguished r changes) (id : String) {kinds : List LumpKind} (hkinds : ∀ k ∈ kinds, k ∈ LumpKind.all)
    (lumps : List Lump) :
    loadLumps id dir t (Manifest.ofRun r).digests kinds = .ok lumps ↔
      (∀ k ∈ kinds, ∀ text, b.find? k = some text → textAfter changes ⟨k, k.name, text⟩ = some text) ∧
        lumps = kinds.filterMap fun k => (b.find? k).map fun t => (⟨k, k.name, t⟩ : Lump) := by
  induction kinds generalizing lumps with
  | nil => simp [loadLumps, eq_comm]
  | cons k kinds ih =>
      obtain ⟨hk, hkinds⟩ := List.forall_mem_cons.1 hkinds
      unfold loadLumps
      rw [Manifest.get?_digests_ofRun hb hk, List.filterMap_cons, List.forall_mem_cons]
      cases hfind : b.find? k with
      | none =>
          rw [Option.map_none]
          dsimp only
          rw [ih hkinds]
          simp
      | some text =>
          have hl : (⟨k, k.name, text⟩ : Lump) ∈ r.lumps := hb ▸ Buffer.mem_lumps_iff.2 ⟨hk, rfl, hfind⟩
          rw [Option.map_some, lumpFile_eq dir (lump_mem_fileNames hk)]
          dsimp only
          cases hfound : t.read (dir.child (k.name ++ ".txt")) with
          | error e =>
              -- The text was deleted.
              refine iff_of_false (by simp) fun h => ?_
              rw [(halt.read_eq_ok_iff hl).2 (h.1.1 text rfl)] at hfound
              cases hfound
          | ok text' =>
              have hafter := (halt.read_eq_ok_iff hl).1 hfound
              refine checked_eq_ok_iff.trans ?_
              constructor
              · rintro ⟨hdigest, ls, hrest, rfl⟩
                obtain rfl := hdistinct _ hl text' hafter hdigest
                obtain ⟨hall, rfl⟩ := (ih hkinds ls).1 hrest
                exact ⟨⟨fun _ heq => Option.some.inj heq ▸ hafter, hall⟩, rfl⟩
              · rintro ⟨⟨hhere, hall⟩, rfl⟩
                obtain rfl : text' = text := Option.some.inj (hafter.symm.trans (hhere text rfl))
                exact ⟨rfl, _, (ih hkinds _).2 ⟨hall, rfl⟩, rfl⟩

/-- What is loaded of a run behind changes to its texts is the whole run, and no text was changed. -/
theorem Altered.whole_of_load (hb : r.lumps = b.lumps) (halt : Altered t (d.place r.id) r changes)
    (hdistinct : Distinguished r changes) {r' : Run} (hload : d.load t r.id = .ok r') :
    r'.lumps = r.lumps ∧ ∀ l ∈ r.lumps, textAfter changes l = some l.text := by
  obtain ⟨text, m, lumps, hread, hmanifest, hlumps, rfl⟩ := load_eq_ok_iff.1 hload
  obtain rfl : (Manifest.ofRun r).text = text := Except.ok.inj (halt.manifest.symm.trans hread)
  rw [Manifest.digests_of_read?_text (Manifest.plain_ofRun hb) rfl hmanifest] at hlumps
  obtain ⟨hall, rfl⟩ := (halt.loadLumps_eq_ok_iff hb hdistinct r.id (fun _ hk => hk) lumps).1 hlumps
  rw [hb]
  exact ⟨rfl, Buffer.forall_mem_lumps_iff.2 hall⟩

/-- A run of which no text was changed is loaded. -/
theorem Altered.load_of_unchanged (hr : r.Recordable) (halt : Altered t (d.place r.id) r changes)
    (hsame : ∀ l ∈ r.lumps, textAfter changes l = some l.text) : d.load t r.id = .ok r.utc :=
  load_of_stores hr ⟨halt.manifest, fun l hl => (halt.read_eq_ok_iff hl).2 (hsame l hl)⟩

end Directory

/-! ### Hash servers -/

namespace HashStore

variable {h : HashStore} {s : HashServer} {r : Run} {b : Buffer} {changes : List LumpChange}

/-- Changes the text of a lump of a run. -/
def tamper (key : String) (s : HashServer) (c : LumpChange) : HashServer :=
  match c.text with
  | some text => s.put key (lumpField c.name) text
  | none => s.drop key (lumpField c.name)

/-- Named texts are those of a run, but for changes to the texts of its lumps. -/
structure AlteredFields (values : SortedMap String String) (r : Run) (changes : List LumpChange) : Prop where
  rest : ∀ field, (∀ l ∈ r.lumps, field ≠ lumpField l.name) → values.get? field = (fieldsOf r).get? field
  lumps : ∀ l ∈ r.lumps, values.get? (lumpField l.name) = textAfter changes l

/-- A server answers, and it has the named texts of a run, but for changes to the texts of its lumps. -/
structure Altered (s : HashServer) (key : String) (r : Run) (changes : List LumpChange) : Prop where
  answers : s.refusing = false
  item : ∃ values left, s.items.get? key = some ⟨.fields values, left⟩ ∧ AlteredFields values r changes

theorem alteredFields_fieldsOf (hb : r.lumps = b.lumps) : AlteredFields (fieldsOf r) r [] where
  rest := fun _ _ => rfl
  lumps := fun l hl => by
    obtain ⟨hkind, hname, hfind⟩ := Buffer.mem_lumps_iff.1 (hb ▸ hl)
    rw [hname, get?_lumpField hb hkind, hfind]
    rfl

/-- A save that succeeds puts the named texts of the run on the server. -/
theorem altered_save (hb : r.lumps = b.lumps) {place : String} (hsave : (h.save s r).2 = .ok place) :
    h.reachable = true ∧ Altered (h.save s r).1 (h.key r.id) r [] := by
  obtain ⟨hreach, hanswers⟩ := answers_of_save hsave
  refine ⟨hreach, ?_⟩
  rw [save_of_answers hreach hanswers]
  exact ⟨hanswers, _, _, SortedMap.get?_insert_self _ _ _, alteredFields_fieldsOf hb⟩

theorem AlteredFields.get?_created {values : SortedMap String String} (hb : r.lumps = b.lumps)
    (halt : AlteredFields values r changes) : values.get? "created_at" = some r.created.utc.text := by
  rw [halt.rest "created_at" fun l _ => created_ne_lumpField l.name]
  exact HashStore.get?_created hb

/-- One text is written or deleted. -/
theorem AlteredFields.concat {values values' : SortedMap String String} (halt : AlteredFields values r changes)
    {c : LumpChange} (hc : c.name ∈ r.lumps.map Lump.name) (hself : values'.get? (lumpField c.name) = c.text)
    (hother : ∀ field, field ≠ lumpField c.name → values'.get? field = values.get? field) :
    AlteredFields values' r (changes ++ [c]) where
  rest := by
    intro field hfield
    obtain ⟨l, hl, hname⟩ := List.mem_map.1 hc
    rw [hother field (hname ▸ hfield l hl)]
    exact halt.rest field hfield
  lumps := by
    intro l hl
    rw [textAfter_concat]
    by_cases hsame : c.name = l.name
    · rw [if_pos hsame, ← hsame]
      exact hself
    · rw [if_neg hsame, hother _ fun heq => hsame (lumpField_inj heq).symm]
      exact halt.lumps l hl

theorem Altered.tamper {key : String} (hb : r.lumps = b.lumps) (halt : Altered s key r changes) {c : LumpChange}
    (hc : c.name ∈ r.lumps.map Lump.name) : Altered (tamper key s c) key r (changes ++ [c]) := by
  obtain ⟨values, left, hitem, hvalues⟩ := halt.item
  unfold HashStore.tamper
  cases htext : c.text with
  | some text =>
      have hfields : s.fields key = values := by
        unfold HashServer.fields
        rw [hitem]
      refine ⟨halt.answers, values.insert (lumpField c.name) text, left, ?_, ?_⟩
      · unfold HashServer.put HashServer.putAll
        dsimp only
        rw [SortedMap.get?_insert_self, hfields, hitem]
        rfl
      · refine hvalues.concat hc ?_ fun field hfield => SortedMap.get?_insert_of_ne _ hfield _
        rw [SortedMap.get?_insert_self, htext]
  | none =>
      have hvalues' : AlteredFields (values.erase (lumpField c.name)) r (changes ++ [c]) := by
        refine hvalues.concat hc ?_ fun field hfield => SortedMap.get?_erase_of_ne _ hfield
        rw [SortedMap.get?_erase_self, htext]
      -- The time of the run is still there, so the key stays.
      have hdrop : s.drop key (lumpField c.name) =
          { s with items := s.items.insert key ⟨.fields (values.erase (lumpField c.name)), left⟩ } := by
        unfold HashServer.drop
        rw [hitem]
        dsimp only
        rw [SortedMap.isEmpty_eq_false (hvalues'.get?_created hb), if_neg (by decide)]
      rw [hdrop]
      exact ⟨halt.answers, _, left, SortedMap.get?_insert_self _ _ _, hvalues'⟩

theorem Altered.tamperAll {key : String} (hb : r.lumps = b.lumps) (halt : Altered s key r [])
    (hchanges : ∀ c ∈ changes, c.name ∈ r.lumps.map Lump.name) :
    Altered (changes.foldl (HashStore.tamper key) s) key r changes :=
  LumpChange.foldl_keeps (fun s changes => Altered s key r changes)
    (fun c hc _ _ halt => halt.tamper hb (hchanges c hc)) halt

/-- The lumps of some kinds are loaded exactly if none of their texts was changed; those whose text was deleted are left
out. -/
theorem AlteredFields.loadLumps_eq_ok_iff {values : SortedMap String String} (hb : r.lumps = b.lumps)
    (halt : AlteredFields values r changes) (hdistinct : Distinguished r changes) (id : String) {kinds : List LumpKind}
    (hkinds : ∀ k ∈ kinds, k ∈ LumpKind.all) (lumps : List Lump) :
    loadLumps id values kinds = .ok lumps ↔
      (∀ k ∈ kinds, ∀ text, b.find? k = some text →
        textAfter changes ⟨k, k.name, text⟩ = none ∨ textAfter changes ⟨k, k.name, text⟩ = some text) ∧
      lumps = (kinds.filterMap fun k => (b.find? k).map fun t => (⟨k, k.name, t⟩ : Lump)).filter
        fun l => (textAfter changes l).isSome := by
  induction kinds generalizing lumps with
  | nil => simp [loadLumps, eq_comm]
  | cons k kinds ih =>
      obtain ⟨hk, hkinds⟩ := List.forall_mem_cons.1 hkinds
      unfold loadLumps
      rw [List.filterMap_cons, List.forall_mem_cons]
      cases hfind : b.find? k with
      | none =>
          have hvacant : values.get? (lumpField k.name) = none := by
            rw [halt.rest _ fun l hl heq => ?_, get?_lumpField hb hk, hfind]
            obtain ⟨hkind, hname, htext⟩ := Buffer.mem_lumps_iff.1 (hb ▸ hl)
            rw [← LumpKind.name_inj hk hkind ((lumpField_inj heq).trans hname), hfind] at htext
            cases htext
          rw [hvacant, Option.map_none]
          dsimp only
          rw [ih hkinds]
          simp
      | some text =>
          have hl : (⟨k, k.name, text⟩ : Lump) ∈ r.lumps := hb ▸ Buffer.mem_lumps_iff.2 ⟨hk, rfl, hfind⟩
          have hdigest : values.get? (digestField k.name) = some (Digest.text (Digest.ofText text)) := by
            rw [halt.rest _ fun l _ heq => lumpField_ne_digestField _ _ heq.symm]
            exact get?_digestField hb hk hfind
          have hafter := halt.lumps _ hl
          dsimp only at hafter
          rw [hafter, Option.map_some]
          dsimp only
          cases htext : textAfter changes ⟨k, k.name, text⟩ with
          | none =>
              -- Without its text the lump is not looked for.
              rw [List.filter_cons_of_neg (by simp [htext])]
              dsimp only
              rw [ih hkinds]
              refine and_congr_left fun _ => ⟨fun hall => ⟨fun _ heq => ?_, hall⟩, And.right⟩
              cases heq
              exact .inl htext
          | some text' =>
              rw [List.filter_cons_of_pos (by simp [htext]), hdigest]
              refine checked_eq_ok_iff.trans ?_
              constructor
              · rintro ⟨hsame, ls, hrest, rfl⟩
                obtain rfl := hdistinct _ hl text' htext hsame
                obtain ⟨hall, rfl⟩ := (ih hkinds ls).1 hrest
                refine ⟨⟨fun _ heq => ?_, hall⟩, rfl⟩
                cases heq
                exact .inr htext
              · rintro ⟨⟨hhere, hall⟩, rfl⟩
                rcases hhere text rfl with hnone | hsome
                · rw [htext] at hnone
                  cases hnone
                · obtain rfl : text' = text := Option.some.inj (htext.symm.trans hsome)
                  exact ⟨rfl, _, (ih hkinds _).2 ⟨hall, rfl⟩, rfl⟩

theorem Altered.fetch? (halt : Altered s (h.key r.id) r changes) :
    ∃ values, s.fetch? (h.key r.id) = some values ∧ AlteredFields values r changes := by
  obtain ⟨values, left, hitem, hvalues⟩ := halt.item
  refine ⟨values, ?_, hvalues⟩
  unfold HashServer.fetch?
  rw [halt.answers, hitem]
  rfl

/-- What is loaded of a run behind changes to its texts are the lumps whose text was not deleted, and no text was
changed. -/
theorem Altered.left_of_load (hb : r.lumps = b.lumps) (hreach : h.reachable = true)
    (halt : Altered s (h.key r.id) r changes) (hdistinct : Distinguished r changes) {r' : Run}
    (hload : h.load s r.id = .ok r') :
    r'.lumps = r.lumps.filter (fun l => (textAfter changes l).isSome) ∧
      ∀ l ∈ r.lumps, textAfter changes l = none ∨ textAfter changes l = some l.text := by
  obtain ⟨values, hfetch, hvalues⟩ := halt.fetch?
  obtain ⟨created, lumps, -, hlumps, rfl⟩ := (load_eq_ok_iff hreach hfetch (hvalues.get?_created hb)).1 hload
  obtain ⟨hall, rfl⟩ := (hvalues.loadLumps_eq_ok_iff hb hdistinct r.id (fun _ hk => hk) lumps).1 hlumps
  rw [hb]
  exact ⟨rfl, Buffer.forall_mem_lumps_iff.2 hall⟩

/-- A run of which no text was changed is loaded without the lumps whose text was deleted. -/
theorem Altered.load_of_left (hr : r.Recordable) (hreach : h.reachable = true)
    (halt : Altered s (h.key r.id) r changes) (hdistinct : Distinguished r changes)
    (hleft : ∀ l ∈ r.lumps, textAfter changes l = none ∨ textAfter changes l = some l.text) :
    h.load s r.id = .ok { r.utc with lumps := r.lumps.filter fun l => (textAfter changes l).isSome } := by
  obtain ⟨b, hb⟩ := hr.lumps
  obtain ⟨values, hfetch, hvalues⟩ := halt.fetch?
  have hlumps := (hvalues.loadLumps_eq_ok_iff hb hdistinct r.id (fun _ hk => hk) _).2
    ⟨Buffer.forall_mem_lumps_iff.1 (hb ▸ hleft), rfl⟩
  refine (load_eq_ok_iff hreach hfetch (hvalues.get?_created hb)).2
    ⟨_, _, Stamp.read?_text hr.created, hlumps, ?_⟩
  rw [hb]
  rfl

end HashStore

/-! ### Stores -/

namespace Store

/-- Changes the text of a lump of a stored run. -/
def tamper (s : Store) (id : String) (m : Medium) (c : LumpChange) : Medium :=
  match s with
  | .directory d => { m with files := Directory.tamper (d.place id) m.files c }
  | .hashes h => { m with server := HashStore.tamper (h.key id) m.server c }

/-- Changes texts of a stored run in order. -/
def tamperAll (s : Store) (id : String) (m : Medium) (changes : List LumpChange) : Medium :=
  changes.foldl (s.tamper id) m

theorem tamperAll_directory (d : Directory) (id : String) (m : Medium) (changes : List LumpChange) :
    (directory d).tamperAll id m changes =
      { m with files := changes.foldl (Directory.tamper (d.place id)) m.files } := by
  unfold tamperAll
  induction changes generalizing m with
  | nil => rfl
  | cons c changes ih => exact ih _

theorem tamperAll_hashes (h : HashStore) (id : String) (m : Medium) (changes : List LumpChange) :
    (hashes h).tamperAll id m changes =
      { m with server := changes.foldl (HashStore.tamper (h.key id)) m.server } := by
  unfold tamperAll
  induction changes generalizing m with
  | nil => rfl
  | cons c changes ih => exact ih _

theorem id_ne_of_save {s : Store} {m : Medium} {r : Run} {place : String} (hsave : (s.save m (some r)).2 = .ok place) :
    r.id ≠ "" := by
  intro hid
  unfold save at hsave
  dsimp only at hsave
  rw [if_pos hid] at hsave
  cases hsave

/-- A run was saved, and then texts of its lumps were changed or deleted, none into another with the same digest.  From
a directory it is loaded only if every text is as it was saved, and then it is loaded whole.  From a hash server it is
loaded if no text was changed, without the lumps whose text was deleted: so it is whole only if none was. -/
theorem load_tampered {s : Store} {m : Medium} {r : Run} {b : Buffer} (hb : r.lumps = b.lumps) {place : String}
    (hsave : (s.save m (some r)).2 = .ok place) {changes : List LumpChange}
    (hchanges : ∀ c ∈ changes, c.name ∈ r.lumps.map Lump.name)
    (hdistinct : Distinguished r changes) :
    let answer := s.load (s.tamperAll r.id (s.save m (some r)).1 changes) (some r.id)
    match s with
    | .directory _ =>
      (∀ r', answer = .ok r' → r'.lumps = r.lumps ∧ ∀ l ∈ r.lumps, textAfter changes l = some l.text) ∧
        (r.Recordable → (∀ l ∈ r.lumps, textAfter changes l = some l.text) → answer = .ok r.utc)
    | .hashes _ =>
      (∀ r', answer = .ok r' → r'.lumps = r.lumps.filter (fun l => (textAfter changes l).isSome) ∧
        ∀ l ∈ r.lumps, textAfter changes l = none ∨ textAfter changes l = some l.text) ∧
        (r.Recordable → (∀ l ∈ r.lumps, textAfter changes l = none ∨ textAfter changes l = some l.text) →
          answer = .ok { r.utc with lumps := r.lumps.filter fun l => (textAfter changes l).isSome }) := by
  have hid := id_ne_of_save hsave
  cases s with
  | directory d =>
      rw [save_directory d m hid] at hsave ⊢
      dsimp only at hsave ⊢
      rw [tamperAll_directory, load_directory d _ hid]
      have halt := (Directory.stores_save hb hsave).altered.tamperAll hb hchanges
      exact ⟨fun r' => halt.whole_of_load hb hdistinct, fun hr => halt.load_of_unchanged hr⟩
  | hashes h =>
      rw [save_hashes h m hid] at hsave ⊢
      dsimp only at hsave ⊢
      rw [tamperAll_hashes, load_hashes h _ hid]
      obtain ⟨hreach, hsaved⟩ := HashStore.altered_save hb hsave
      have halt := hsaved.tamperAll hb hchanges
      exact ⟨fun r' => halt.left_of_load hb hreach hdistinct, fun hr => halt.load_of_left hr hreach hdistinct⟩

set_option maxRecDepth 4000 in
/-- A run of two lumps, of which one gets another text: neither store loads it. -/
theorem load_tampered_changed :
    let b := (({} : Buffer).write .things "TROOP").write .triggers "START"
    let r : Run := ⟨"a", { seconds := 0 }, b.lumps⟩
    let changes : List LumpChange := [⟨"RSCRIPT", some "STOP"⟩]
    (∀ c ∈ changes, c.name ∈ r.lumps.map Lump.name) ∧ Distinguished r changes ∧
      ∀ store ∈ [Store.directory ⟨"runs"⟩, .hashes {}], (∃ place, (store.save {} (some r)).2 = .ok place) ∧
        ∀ r', store.load (store.tamperAll "a" (store.save {} (some r)).1 changes) (some "a") ≠ .ok r' := by
  intro b r changes
  have hlumps : r.lumps = [⟨.things, "DDFTHING", "<THINGS>\n\nTROOP"⟩, ⟨.triggers, "RSCRIPT", "START"⟩] := by decide
  have hlump : (⟨.triggers, "RSCRIPT", "START"⟩ : Lump) ∈ r.lumps := by simp [hlumps]
  have hchanges : ∀ c ∈ changes, c.name ∈ r.lumps.map Lump.name := by simp [changes, hlumps]
  have hdistinct : Distinguished r changes := by
    have hdigest : Digest.ofText "STOP" ≠ Digest.ofText "START" := by decide +kernel
    simp [Distinguished, hlumps, textAfter, changes, hdigest]
  refine ⟨hchanges, hdistinct, fun store hstore => ?_⟩
  simp only [List.mem_cons, List.not_mem_nil, or_false] at hstore
  rcases hstore with rfl | rfl
  · have hfits : (⟨"runs"⟩ : Directory).Fits [] "a" := ⟨by decide, by decide, by decide⟩
    have hvacant : Directory.Vacant ({} : Medium).files ((⟨"runs"⟩ : Directory).place "a") :=
      .of_unoccupied (by decide) (by decide) (by decide)
    have hr : r.Recordable := ⟨⟨by decide, by decide, by decide⟩, b, rfl⟩
    have hsave := ((Directory.Holds.of_vacant hvacant).save (r := r) hfits (by decide) hr).1
    refine ⟨⟨_, hsave⟩, fun r' hload => ?_⟩
    have hkept := ((load_tampered (b := b) rfl hsave hchanges hdistinct).1 r' hload).2 _ hlump
    simp [textAfter, changes] at hkept
  · have hsave : ((hashes {}).save {} (some r)).2 = .ok "run:a" := by
      rw [save_hashes {} {} (by decide), HashStore.save_of_answers rfl rfl]
      rfl
    refine ⟨⟨_, hsave⟩, fun r' hload => ?_⟩
    have hkept := ((load_tampered (b := b) rfl hsave hchanges hdistinct).1 r' hload).2 _ hlump
    simp [textAfter, changes] at hkept

set_option maxRecDepth 4000 in
/-- A run whose only text was deleted is loaded from a hash server, without its lump. -/
theorem deleted_lump_overlooked :
    let store : Store := .hashes {}
    let r : Run := ⟨"a", { seconds := 0 }, (({} : Buffer).write .triggers "START").lumps⟩
    r.lumps = [⟨.triggers, "RSCRIPT", "START"⟩] ∧
      store.load (store.tamperAll "a" (store.save {} (some r)).1 [⟨"RSCRIPT", none⟩]) (some "a") =
        .ok { r with lumps := [] } := by
  intro store r
  have hlumps : r.lumps = [⟨.triggers, "RSCRIPT", "START"⟩] := by decide
  have hr : r.Recordable := ⟨⟨by decide, by decide, by decide⟩, ({} : Buffer).write .triggers "START", rfl⟩
  have hsave : ((⟨"", 0, true⟩ : HashStore).save {} r).2 = .ok "run:a" := by
    rw [HashStore.save_of_answers rfl rfl]
    rfl
  have hchanges : ∀ c ∈ ([⟨"RSCRIPT", none⟩] : List LumpChange), c.name ∈ r.lumps.map Lump.name := by simp [hlumps]
  refine ⟨hlumps, ?_⟩
  obtain ⟨b, hb⟩ := hr.lumps
  have halt := (HashStore.altered_save hb hsave).2.tamperAll hb hchanges
  rw [save_hashes _ _ (by decide), tamperAll_hashes, load_hashes _ _ (by decide),
    halt.load_of_left hr rfl (by simp [Distinguished, hlumps, textAfter]) (by simp [hlumps, textAfter]), hlumps]
  rfl

end Store
end DoomPatch
