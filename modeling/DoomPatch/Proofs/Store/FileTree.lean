import Mathlib.Data.List.Induction
import DoomPatch.Proofs.Store.Path
import DoomPatch.Store.FileTree

/-!
# What stands in a tree of files

* `at?_of_above` — what stands anywhere has directories all the way to it.
* `FileTree.Leads`, `FileTree.Clear` — directories stand all the way to a place; no file stands in the way.
* `read_child_eq_ok_iff` — when a file of a directory can be read.
* `gone_clear`, `emptied_clear` — what is left when a place was cleared.
* `FileTree.Confined` — a change that stays below a place, but for directories made on the way to it; `confined_gone`,
  `confined_emptied`, `confined_make` and `confined_write?` — the operations are such changes.
* `read_of_write?`, `exists_write?_child` — what is written can be read, and when a file can be written.
* `make_of_clear`, `exists_clear` — when a directory can be made, and when a place can be removed.
-/

namespace DoomPatch
namespace FileTree

variable {t t' t'' : FileTree} {p q dir : Path} {name text : String} {e : FileEntry}

/-! ## Entries -/

/-- Nothing stands at the place of itself. -/
def Ordinary (home : List String) (p : Path) : Prop := fixed? (p.names home) = none

instance (home : List String) (p : Path) : Decidable (Ordinary home p) := inferInstanceAs (Decidable (_ = _))

theorem ordinary_of_at?_eq_none (hentry : t.at? p = none) : Ordinary t.home p := (Option.or_eq_none_iff.1 hentry).1

theorem ordinary_child (home : List String) (dir : Path) (hname : name ∉ ["dev", "null"]) :
    Ordinary home (dir.child name) := by
  simp only [List.mem_cons, List.not_mem_nil, or_false, not_or] at hname
  obtain ⟨hdev, hnull⟩ := hname
  -- What stands of itself ends in a name of its own.
  have hlast : ∀ {names : List String}, dir.names home ++ [name] = names → names.getLast? = some name := by
    rintro names rfl
    exact List.getLast?_concat
  unfold Ordinary
  rw [Path.names_child]
  unfold fixed?
  split
  · next heq => simpa using hlast heq
  · next heq => exact absurd (hlast heq) (by simpa using Ne.symm hdev)
  · next heq => exact absurd (hlast heq) (by simpa using Ne.symm hnull)
  · rfl

/-- What has something below it is a directory. -/
theorem Founded.above {entries : SortedMap (List String) FileEntry} (hfounded : Founded entries) {names : List String}
    {rest : List String} (hrest : rest ≠ []) (hstands : standing entries (names ++ rest) ≠ none) :
    standing entries names = some .directory := by
  induction rest using List.reverseRecOn with
  | nil => exact absurd rfl hrest
  | append_singleton rest name ih =>
      have hparent := hfounded _ hstands
      rw [← List.append_assoc, List.dropLast_concat] at hparent
      by_cases hnil : rest = []
      · rw [hnil, List.append_nil] at hparent
        exact hparent
      · exact ih hnil (by simp [hparent])

/-- What stands anywhere has directories all the way to it. -/
theorem at?_of_above (hq : t.at? q ≠ none) (habove : p.Above t.home q) (hne : p.names t.home ≠ q.names t.home) :
    t.at? p = some .directory := by
  obtain ⟨rest, hnames⟩ := habove
  have hrest : rest ≠ [] := by
    rintro rfl
    rw [List.append_nil] at hnames
    exact hne hnames
  unfold at? at hq
  rw [← hnames] at hq
  exact t.founded.above hrest hq

/-- What stands in a directory has directories all the way to it. -/
theorem at?_of_above_child (hchild : t.at? (dir.child name) = some e) (hq : q.Above t.home dir) :
    t.at? q = some .directory := by
  refine at?_of_above (by simp [hchild]) (hq.trans (Path.above_child _ dir name)) fun heq => ?_
  have hlength := hq.length_le
  rw [heq, Path.names_child, List.length_append] at hlength
  exact absurd hlength (Nat.not_succ_le_self _)

theorem at?_ne_none_of_above (hq : t.at? q ≠ none) (habove : p.Above t.home q) : t.at? p ≠ none := by
  by_cases heq : p.names t.home = q.names t.home
  · rw [at?, heq]
    exact hq
  · simp [at?_of_above hq habove heq]

/-- Nothing that stands of itself is below a place where nothing does. -/
theorem Ordinary.below {home : List String} (hp : Ordinary home p) (habove : p.Above home q) : Ordinary home q := by
  have hstanding : ∀ names, standing ∅ names = fixed? names := fun names => Option.or_none
  obtain ⟨rest, hnames⟩ := habove
  by_cases hrest : rest = []
  · rw [hrest, List.append_nil] at hnames
    rw [Ordinary, ← hnames]
    exact hp
  · refine Decidable.byContradiction fun hq => ?_
    have hstands : standing ∅ (p.names home ++ rest) ≠ none := by
      rw [hstanding, hnames]
      exact hq
    have hdirectory := founded_empty.above hrest hstands
    rw [hstanding, hp] at hdirectory
    cases hdirectory

/-! ## Changes of entries -/

@[simp] theorem home_put (t : FileTree) (p : Path) (e : FileEntry) : (t.put p e).home = t.home := by
  unfold put
  split <;> rfl

theorem at?_put_of_ne (t : FileTree) (hne : q.names t.home ≠ p.names t.home) (e : FileEntry) :
    (t.put p e).at? q = t.at? q := by
  unfold put
  split
  · exact standing_insert_of_ne _ hne e
  · rfl

theorem at?_put_self (htakes : t.Takes p) (hp : Ordinary t.home p) (e : FileEntry) : (t.put p e).at? p = some e := by
  unfold put at?
  rw [dif_pos htakes]
  dsimp only
  rw [standing, hp, Option.none_or, SortedMap.get?_insert_self]

theorem at?_drop_of_not_above (t : FileTree) (habove : ¬p.Above t.home q) : (t.drop p).at? q = t.at? q := by
  unfold drop at?
  dsimp only
  rw [standing_filter, if_neg fun h => habove (List.isPrefixOf_iff_prefix.1 h)]

theorem at?_drop_of_above (t : FileTree) (hq : Ordinary t.home q) (habove : p.Above t.home q) :
    (t.drop p).at? q = none := by
  unfold drop at?
  dsimp only
  rw [standing_filter, if_pos (List.isPrefixOf_iff_prefix.2 habove)]
  exact hq

theorem at?_hollow_of_not_above (t : FileTree) (habove : ¬p.Above t.home q) : (t.hollow p).at? q = t.at? q := by
  have hkept : ¬(p.names t.home).isPrefixOf (q.names t.home).dropLast = true := fun h =>
    habove ((List.isPrefixOf_iff_prefix.1 h).trans (List.dropLast_prefix _))
  unfold hollow at?
  dsimp only
  rw [standing_filter t.entries fun k => (p.names t.home).isPrefixOf k.dropLast, if_neg hkept]

theorem at?_hollow_child (t : FileTree) (hname : Ordinary t.home (dir.child name)) (habove : p.Above t.home dir) :
    (t.hollow p).at? (dir.child name) = none := by
  have hdropped : (p.names t.home).isPrefixOf ((dir.child name).names t.home).dropLast = true := by
    rw [Path.names_child, List.dropLast_concat]
    exact List.isPrefixOf_iff_prefix.2 habove
  unfold hollow at?
  dsimp only
  rw [standing_filter t.entries fun k => (p.names t.home).isPrefixOf k.dropLast, if_pos hdropped]
  exact hname

/-! ## The way to a place -/

/-- Directories stand at the place and all the way to it. -/
def Leads (t : FileTree) (p : Path) : Prop := ∀ q ∈ p.trail, q.isShort = true ∧ t.at? q = some .directory

/-- No file stands at the place or in the way. -/
def Clear (t : FileTree) (p : Path) : Prop := ∀ q ∈ p.trail, ∀ text, t.at? q ≠ some (.file text)

theorem Leads.clear (hleads : t.Leads p) : t.Clear p := by
  intro q hq text hfile
  rw [(hleads q hq).2] at hfile
  cases hfile

theorem walk_eq_directory_iff (ps : List Path) :
    t.walk ps = .ok .directory ↔ ∀ q ∈ ps, q.isShort = true ∧ t.at? q = some .directory := by
  induction ps with
  | nil => simp [walk]
  | cons p ps ih =>
      rw [List.forall_mem_cons, ← ih, walk]
      cases hshort : p.isShort with
      | false => simp
      | true =>
          cases hentry : t.at? p with
          | none => simp
          | some e =>
              cases e with
              | directory => simp
              | file text => cases ps <;> simp

theorem walk_append_of_directories {ps : List Path}
    (hps : ∀ q ∈ ps, q.isShort = true ∧ t.at? q = some .directory) (rest : List Path) :
    t.walk (ps ++ rest) = t.walk rest := by
  induction ps with
  | nil => rfl
  | cons p ps ih =>
      obtain ⟨hshort, hentry⟩ := hps p List.mem_cons_self
      rw [List.cons_append, walk, hshort, hentry]
      exact ih fun q hq => hps q (List.mem_cons_of_mem _ hq)

/-- Beyond the directories on the way, what a walk finds stands at its last place. -/
theorem walk_concat_eq_ok_iff (ps : List Path) (e : FileEntry) :
    t.walk (ps ++ [p]) = .ok e ↔ (∀ q ∈ ps, q.isShort = true ∧ t.at? q = some .directory) ∧
      p.isShort = true ∧ t.at? p = some e := by
  induction ps with
  | nil =>
      rw [List.nil_append, walk]
      cases hshort : p.isShort with
      | false => simp
      | true =>
          cases hentry : t.at? p with
          | none => simp
          | some e' => cases e' <;> simp [walk]
  | cons q ps ih =>
      rw [List.cons_append, List.forall_mem_cons, and_assoc, ← ih, walk]
      cases hshort : q.isShort with
      | false => simp
      | true =>
          cases hentry : t.at? q with
          | none => simp
          | some e' => cases e' <;> simp

theorem walk_of_no_file {ps : List Path}
    (hps : ∀ q ∈ ps, q.isShort = true ∧ ∀ text, t.at? q ≠ some (.file text)) :
    t.walk ps = .ok .directory ∨ t.walk ps = .error .missing := by
  induction ps with
  | nil => exact .inl rfl
  | cons p ps ih =>
      obtain ⟨hshort, hfile⟩ := hps p List.mem_cons_self
      rw [walk, hshort]
      cases hentry : t.at? p with
      | none => exact .inr rfl
      | some e =>
          cases e with
          | directory => exact ih fun q hq => hps q (List.mem_cons_of_mem _ hq)
          | file text => exact absurd hentry (hfile text)

theorem find_eq_directory_iff : t.find p = .ok .directory ↔ Path.isWritable p.text = true ∧ t.Leads p := by
  unfold find Leads
  rw [← walk_eq_directory_iff]
  split <;> simp_all

/-- A walk along what stands does not end in the void. -/
theorem find_ne_missing (hway : ∀ q ∈ p.trail, t.at? q ≠ none) : t.find p ≠ .error .missing := by
  have hwalk : ∀ ps : List Path, (∀ q ∈ ps, t.at? q ≠ none) → t.walk ps ≠ .error .missing := by
    intro ps hps
    induction ps with
    | nil => exact nofun
    | cons q ps ih =>
        obtain ⟨hq, hps⟩ := List.forall_mem_cons.1 hps
        rw [walk]
        split
        · exact nofun
        · split
          · next hnone => exact absurd hnone hq
          · exact ih hps
          · split <;> exact nofun
  unfold find
  split
  · exact hwalk _ hway
  · exact nofun

theorem find_of_clear (hp : p.Nameable) (hwritable : Path.isWritable p.text = true) (hclear : t.Clear p) :
    t.find p = .ok .directory ∨ t.find p = .error .missing := by
  unfold find
  rw [if_pos hwritable]
  exact walk_of_no_file fun q hq => ⟨(hp q hq).1, hclear q hq⟩

/-! ## Files of a directory -/

/-- What the directories on the way have to be like is told by the path alone. -/
theorem read_child_eq_ok_iff : t.read (dir.child name) = .ok text ↔
    (dir.child name).Passable ∧ t.at? (dir.child name) = some (.file text) := by
  have hread : t.read (dir.child name) = .ok text ↔ t.find (dir.child name) = .ok (.file text) := by
    unfold read
    split <;> simp_all
  rw [hread, find]
  unfold Path.Passable
  cases hwritable : Path.isWritable (dir.child name).text with
  | false => simp
  | true =>
      rw [if_pos rfl, Path.trail_child, walk_concat_eq_ok_iff, List.forall_mem_append, List.forall_mem_singleton]
      constructor
      · rintro ⟨hway, hshort, hentry⟩
        exact ⟨⟨rfl, fun q hq => (hway q hq).1, hshort⟩, hentry⟩
      · rintro ⟨⟨-, hway, hshort⟩, hentry⟩
        exact ⟨fun q hq => ⟨hway q hq, at?_of_above_child hentry (Path.above_of_mem_trail hq)⟩, hshort, hentry⟩

theorem leads_of_read (hread : t.read (dir.child name) = .ok text) : t.Leads dir := by
  obtain ⟨⟨-, hway⟩, hentry⟩ := read_child_eq_ok_iff.1 hread
  rw [Path.trail_child, List.forall_mem_append] at hway
  exact fun q hq => ⟨hway.1 q hq, at?_of_above_child hentry (Path.above_of_mem_trail hq)⟩

/-- A file can still be read as long as it is kept: so is then the way to it. -/
theorem read_child_of_kept (hread : t.read (dir.child name) = .ok text)
    (hchild : t'.at? (dir.child name) = t.at? (dir.child name)) : t'.read (dir.child name) = .ok text := by
  obtain ⟨hpass, hentry⟩ := read_child_eq_ok_iff.1 hread
  exact read_child_eq_ok_iff.2 ⟨hpass, hchild.trans hentry⟩

theorem read_child_of_none (hchild : (dir.child name).Nameable) (hclear : t.Clear dir)
    (hnone : t.at? (dir.child name) = none) : t.read (dir.child name) = .error .missing := by
  have hlast := Path.child_mem_trail dir name
  have hclear' : t.Clear (dir.child name) := by
    intro q hq
    rw [Path.trail_child, List.mem_append, List.mem_singleton] at hq
    rcases hq with hq | rfl
    · exact hclear q hq
    · simp [hnone]
  have hmissing : t.find (dir.child name) = .error .missing := by
    rcases find_of_clear hchild (hchild _ hlast).2 hclear' with hfind | hfind
    · have hentry := ((find_eq_directory_iff.1 hfind).2 _ hlast).2
      rw [hnone] at hentry
      cases hentry
    · exact hfind
  unfold read
  rw [hmissing]

theorem write?_eq_some {text : String} (hwrite : t.write? p text = some t') :
    t.find p.parent = .ok .directory ∧ t.find p ≠ .error .blocked ∧ t.Takes p ∧ t' = t.put p (.file text) := by
  unfold write? at hwrite
  split at hwrite
  · next hparent hfind =>
    obtain ⟨htakes, htree⟩ := Option.ite_none_right_eq_some.1 hwrite
    exact ⟨hparent, by simp [hfind], htakes, (Option.some.inj htree).symm⟩
  · next hparent hfind =>
    obtain ⟨htakes, htree⟩ := Option.ite_none_right_eq_some.1 hwrite
    exact ⟨hparent, by simp [hfind], htakes, (Option.some.inj htree).symm⟩
  · cases hwrite

theorem home_write? (hwrite : t.write? p text = some t') : t'.home = t.home := by
  rw [(write?_eq_some hwrite).2.2.2, home_put]

theorem at?_write? (hwrite : t.write? p text = some t') (hne : q.names t.home ≠ p.names t.home) :
    t'.at? q = t.at? q := by
  rw [(write?_eq_some hwrite).2.2.2]
  exact at?_put_of_ne t hne _

/-- A file that was written can be read. -/
theorem read_of_write? (hname : Ordinary t.home (dir.child name))
    (hwrite : t.write? (dir.child name) text = some t') : t'.read (dir.child name) = .ok text := by
  obtain ⟨hparent, hblocked, htakes, rfl⟩ := write?_eq_some hwrite
  rw [Path.parent_child, find_eq_directory_iff] at hparent
  -- A name that a disk does not take would have been refused.
  have hpass : (dir.child name).Passable := by
    unfold find at hblocked
    by_cases hwritable : Path.isWritable (dir.child name).text = true
    · rw [if_pos hwritable, Path.trail_child, walk_append_of_directories hparent.2, walk] at hblocked
      refine ⟨hwritable, ?_⟩
      rw [Path.trail_child, List.forall_mem_append, List.forall_mem_singleton]
      refine ⟨fun q hq => (hparent.2 q hq).1, Decidable.byContradiction fun hshort => hblocked ?_⟩
      rw [if_pos (by simpa using hshort)]
    · rw [if_neg hwritable] at hblocked
      exact absurd rfl hblocked
  exact read_child_eq_ok_iff.2 ⟨hpass, at?_put_self htakes hname _⟩

/-- A file can be written into a directory where no other directory has its name. -/
theorem exists_write?_child (text : String) (hleads : t.Leads dir) (hdir : dir.parts ≠ [])
    (hwritable : Path.isWritable dir.text = true) (hchild : (dir.child name).Nameable)
    (hentry : t.at? (dir.child name) ≠ some .directory) : ∃ t', t.write? (dir.child name) text = some t' := by
  have hparent : t.find (dir.child name).parent = .ok .directory := by
    rw [Path.parent_child, find_eq_directory_iff]
    exact ⟨hwritable, hleads⟩
  have htakes : t.Takes (dir.child name) := by
    refine ⟨?_, hentry⟩
    rw [Path.names_child, List.dropLast_concat]
    exact (hleads dir (Path.mem_trail_self hdir)).2
  obtain ⟨hshort, hwritable⟩ := hchild (dir.child name) (Path.child_mem_trail dir name)
  unfold write?
  rw [hparent, find, if_pos hwritable, Path.trail_child, walk_append_of_directories hleads, walk, hshort]
  cases hat : t.at? (dir.child name) with
  | none => exact ⟨_, if_pos htakes⟩
  | some e =>
      cases e with
      | directory => exact absurd hat hentry
      | file text' => exact ⟨_, if_pos htakes⟩

/-! ## Making directories -/

theorem at?_put_directory (hp : t.at? p = none) (htakes : t.Takes p) (q : Path) :
    (t.put p .directory).at? q = t.at? q ∨
      (q.names t.home = p.names t.home ∧ t.at? q = none ∧ (t.put p .directory).at? q = some .directory) := by
  by_cases heq : q.names t.home = p.names t.home
  · have hmade := at?_put_self htakes (ordinary_of_at?_eq_none hp) .directory
    unfold at? at hp hmade ⊢
    rw [home_put] at hmade ⊢
    rw [heq]
    exact .inr ⟨rfl, hp, hmade⟩
  · exact .inl (at?_put_of_ne t heq _)

theorem home_makeEach (ps : List Path) (t : FileTree) : (t.makeEach ps).1.home = t.home := by
  induction ps generalizing t with
  | nil => rfl
  | cons p ps ih =>
      rw [makeEach]
      split
      · exact ih t
      · rfl
      · split
        · rw [ih, home_put]
        · rfl

/-- Directories are made only where nothing stood. -/
theorem at?_makeEach (ps : List Path) (t : FileTree) (q : Path) :
    (t.makeEach ps).1.at? q = t.at? q ∨
      ((∃ p ∈ ps, q.names t.home = p.names t.home) ∧ t.at? q = none ∧
        (t.makeEach ps).1.at? q = some .directory) := by
  induction ps generalizing t with
  | nil => exact .inl rfl
  | cons p ps ih =>
      have hlater : (∃ p' ∈ ps, q.names t.home = p'.names t.home) →
          ∃ p' ∈ p :: ps, q.names t.home = p'.names t.home := by
        rintro ⟨p', hp', heq⟩
        exact ⟨p', List.mem_cons_of_mem _ hp', heq⟩
      rw [makeEach]
      cases hentry : t.at? p with
      | some e =>
          cases e with
          | directory => exact (ih t).imp_right fun ⟨hex, hrest⟩ => ⟨hlater hex, hrest⟩
          | file text => exact .inl rfl
      | none =>
          dsimp only
          split
          · next hp =>
            have htakes : t.Takes p := of_decide_eq_true (Bool.and_eq_true_iff.1 hp).2
            have hrest := ih (t.put p .directory)
            rw [home_put] at hrest
            -- Either this step makes the place, and the later ones leave it, or it is as it was before.
            rcases at?_put_directory hentry htakes q with hsame | ⟨heq, hnone, hmade⟩
            · rcases hrest with hrest | ⟨hex, hnone, hmade⟩
              · exact .inl (hrest.trans hsame)
              · exact .inr ⟨hlater hex, hsame ▸ hnone, hmade⟩
            · refine .inr ⟨⟨p, List.mem_cons_self, heq⟩, hnone, ?_⟩
              rcases hrest with hrest | ⟨-, hnone', -⟩
              · exact hrest.trans hmade
              · rw [hmade] at hnone'
                cases hnone'
          · exact .inl rfl

theorem makeEach_append (ps qs : List Path) (hmade : (t.makeEach ps).2 = true) :
    t.makeEach (ps ++ qs) = (t.makeEach ps).1.makeEach qs := by
  induction ps generalizing t with
  | nil => rfl
  | cons p ps ih =>
      rw [List.cons_append, makeEach, makeEach]
      rw [makeEach] at hmade
      split
      · next hentry =>
        rw [hentry] at hmade
        exact ih hmade
      · next hentry =>
        rw [hentry] at hmade
        cases hmade
      · next hentry =>
        rw [hentry] at hmade
        dsimp only at hmade
        split
        · next hp =>
          rw [if_pos hp] at hmade
          exact ih hmade
        · next hp =>
          rw [if_neg hp] at hmade
          cases hmade

/-- A directory can be made where its path starts from one and no file is in the way; then it stands. -/
theorem make_of_clear (hp : p.Nameable) (hbase : t.at? p.base = some .directory)
    (hclear : t.Clear p) : (t.make p).2 = true ∧ (t.make p).1.at? p = some .directory := by
  obtain ⟨start, parts⟩ := p
  induction parts using List.reverseRecOn with
  | nil => exact ⟨rfl, hbase⟩
  | append_singleton parts name ih =>
      let dir : Path := ⟨start, parts⟩
      change (dir.child name).Nameable at hp
      change t.Clear (dir.child name) at hclear
      change (t.make (dir.child name)).2 = true ∧ (t.make (dir.child name)).1.at? (dir.child name) = _
      have hlast := Path.child_mem_trail dir name
      have hbefore : t.Clear dir := fun q hq =>
        hclear q (by rw [Path.trail_child]; exact List.mem_append_left _ hq)
      obtain ⟨hmade, hdir⟩ := ih hp.of_child hbase hbefore
      unfold make at hmade hdir ⊢
      rw [Path.trail_child, makeEach_append _ _ hmade]
      generalize hmake : (t.makeEach dir.trail).1 = t₁ at hdir
      have hfile : ∀ text, t₁.at? (dir.child name) ≠ some (.file text) := by
        intro text
        rcases at?_makeEach dir.trail t (dir.child name) with hsame | ⟨-, -, hthere⟩
        · rw [← hmake, hsame]
          exact hclear _ hlast text
        · rw [← hmake, hthere]
          exact nofun
      rw [makeEach]
      cases hentry : t₁.at? (dir.child name) with
      | some e =>
          cases e with
          | directory => exact ⟨rfl, hentry⟩
          | file text => exact absurd hentry (hfile text)
      | none =>
          have htakes : t₁.Takes (dir.child name) := by
            refine ⟨?_, by simp [hentry]⟩
            rw [Path.names_child, List.dropLast_concat]
            exact hdir
          obtain ⟨hshort, hwritable⟩ := hp _ hlast
          dsimp only
          rw [if_pos (by simp [hshort, hwritable, htakes])]
          exact ⟨rfl, at?_put_self htakes (ordinary_of_at?_eq_none hentry) _⟩

/-! ## Clearing a place -/

theorem remove_eq (t : FileTree) (p : Path) :
    (t.remove p = .emptied (t.hollow p) ∧ (p.parts = [] ∨ ¬Ordinary t.home p)) ∨
      (t.remove p = .gone (t.drop p) ∧ p.parts ≠ [] ∧ Ordinary t.home p) := by
  unfold remove
  by_cases hstays : p.parts = [] ∨ fixed? (p.names t.home) ≠ none
  · exact .inl ⟨if_pos hstays, hstays⟩
  · obtain ⟨hparts, hfixed⟩ := not_or.1 hstays
    exact .inr ⟨if_neg hstays, hparts, Decidable.not_not.1 hfixed⟩

/-- A place is cleared by removing it, or nothing is there to remove. -/
theorem clear_cases (t : FileTree) (p : Path) :
    t.clear p = .refused ∨ (p ≠ .here ∧ t.clear p = t.remove p) ∨
      (t.clear p = .gone t ∧ (t.find p = .error .missing ∨ t.find p.parent = .error .missing)) := by
  unfold clear
  by_cases hhere : p = .here
  · exact .inl (if_pos hhere)
  · rw [if_neg hhere]
    cases t.find p with
    | ok e => exact .inr (.inl ⟨hhere, rfl⟩)
    | error e =>
        cases e with
        | missing => exact .inr (.inr ⟨rfl, .inl rfl⟩)
        | blocked =>
            dsimp only
            cases t.find p.parent with
            | ok e =>
                cases e with
                | directory =>
                    dsimp only
                    split
                    · exact .inr (.inl ⟨hhere, rfl⟩)
                    · exact .inl rfl
                | file text => exact .inl rfl
            | error e =>
                cases e with
                | missing => exact .inr (.inr ⟨rfl, .inr rfl⟩)
                | blocked => exact .inl rfl

/-- A place that is only emptied stays, and so does all that is not below it. -/
theorem emptied_clear (hclear : t.clear p = .emptied t') :
    t' = t.hollow p ∧ p ≠ .here ∧ (p.parts = [] ∨ ¬Ordinary t.home p) := by
  rcases t.clear_cases p with hrefused | ⟨hhere, hremove⟩ | ⟨hgone, -⟩
  · rw [hrefused] at hclear
    cases hclear
  · rcases t.remove_eq p with ⟨hemptied, hstays⟩ | ⟨hgone, -⟩
    · rw [hremove, hemptied] at hclear
      cases hclear
      exact ⟨rfl, hhere, hstays⟩
    · rw [hremove, hgone] at hclear
      cases hclear
  · rw [hgone] at hclear
    cases hclear

/-- Where there is no way to a place, nothing stands below it. -/
theorem at?_eq_none_of_missing (hmissing : t.find p = .error .missing ∨ t.find p.parent = .error .missing)
    (habove : p.Above t.home q) : t.at? q = none := by
  refine Decidable.byContradiction fun hq => ?_
  have hway : ∀ x ∈ p.trail, t.at? x ≠ none := fun x hx =>
    at?_ne_none_of_above hq ((Path.above_of_mem_trail hx).trans habove)
  rcases hmissing with hmissing | hmissing
  · exact find_ne_missing hway hmissing
  · refine find_ne_missing (fun x hx => ?_) hmissing
    by_cases hparts : p.parts = []
    · -- There is no way to the parent but its start.
      rw [Path.parent, if_pos (by simp [hparts]), Path.trail] at hx
      simp [hparts] at hx
    · obtain ⟨dir, name, rfl⟩ := Path.exists_child hparts
      rw [Path.parent_child] at hx
      exact hway x (by rw [Path.trail_child]; exact List.mem_append_left _ hx)

/-- Nothing stands at or below a place that is gone, and elsewhere all is as it was. -/
theorem gone_clear (hclear : t.clear p = .gone t') :
    t'.home = t.home ∧ (∀ q, p.Above t.home q → t'.at? q = none) ∧ ∀ q, ¬p.Above t.home q → t'.at? q = t.at? q := by
  rcases t.clear_cases p with hrefused | ⟨-, hremove⟩ | ⟨hgone, hmissing⟩
  · rw [hrefused] at hclear
    cases hclear
  · rcases t.remove_eq p with ⟨hemptied, -⟩ | ⟨hdropped, -, hordinary⟩
    · rw [hremove, hemptied] at hclear
      cases hclear
    · rw [hremove, hdropped] at hclear
      cases hclear
      exact ⟨rfl, fun q habove => t.at?_drop_of_above (hordinary.below habove) habove,
        fun q habove => t.at?_drop_of_not_above habove⟩
  · rw [hgone] at hclear
    cases hclear
    exact ⟨rfl, fun q => at?_eq_none_of_missing hmissing, fun q _ => rfl⟩

/-- A place with a name of its own, to which no file is in the way, can be removed. -/
theorem exists_clear (hp : p.Nameable) (hparts : p.parts ≠ []) (hordinary : Ordinary t.home p) (hclear : t.Clear p) :
    ∃ t', t.clear p = .gone t' := by
  have hhere : p ≠ .here := by
    rintro rfl
    exact hparts rfl
  have hremove : t.remove p = .gone (t.drop p) := if_neg (not_or.2 ⟨hparts, Decidable.not_not.2 hordinary⟩)
  unfold clear
  rw [if_neg hhere]
  rcases find_of_clear hp (hp p (Path.mem_trail_self hparts)).2 hclear with hfind | hfind
  · rw [hfind]
    exact ⟨_, hremove⟩
  · rw [hfind]
    exact ⟨_, rfl⟩

/-! ## Changes that stay below a place -/

/-- The change stays below a place, but for directories made on the way to it. -/
structure Confined (p : Path) (t t' : FileTree) : Prop where
  home : t'.home = t.home
  elsewhere : ∀ q, ¬p.Above t.home q → t'.at? q = t.at? q ∨
    (q.Above t.home p ∧ t.at? q = none ∧ t'.at? q = some .directory)

theorem Confined.refl (p : Path) (t : FileTree) : Confined p t t := ⟨rfl, fun _ _ => .inl rfl⟩

theorem Confined.trans (h : Confined p t t') (h' : Confined p t' t'') : Confined p t t'' := by
  refine ⟨h'.home.trans h.home, fun q hq => ?_⟩
  have hthen := h'.elsewhere q
  rw [h.home] at hthen
  rcases h.elsewhere q hq, hthen hq with ⟨hsame | ⟨habove, hnone, hmade⟩, hsame' | ⟨habove', hnone', hmade'⟩⟩
  · exact .inl (hsame'.trans hsame)
  · exact .inr ⟨habove', hsame ▸ hnone', hmade'⟩
  · exact .inr ⟨habove, hnone, hsame'.trans hmade⟩
  · -- A directory that was made is not made again.
    rw [hmade] at hnone'
    cases hnone'

theorem confined_gone (hclear : t.clear p = .gone t') : Confined p t t' := by
  obtain ⟨hhome, -, hkept⟩ := gone_clear hclear
  exact ⟨hhome, fun q hq => .inl (hkept q hq)⟩

theorem confined_emptied (hclear : t.clear p = .emptied t') : Confined p t t' := by
  obtain ⟨rfl, -⟩ := emptied_clear hclear
  exact ⟨rfl, fun q hq => .inl (t.at?_hollow_of_not_above hq)⟩

/-- A change apart from a directory leaves its files. -/
theorem Confined.at?_child (h : Confined p t t') (hapart : p.Apart t.home dir) (name : String) :
    t'.at? (dir.child name) = t.at? (dir.child name) := by
  have hbelow : ¬p.Above t.home (dir.child name) := by
    rw [Path.above_child_iff]
    rintro (heq | habove)
    · exact hapart.2 ((Path.above_child _ dir name).trans (Path.above_of_names_eq heq.symm))
    · exact hapart.1 habove
  rcases h.elsewhere _ hbelow with hsame | ⟨habove, -, -⟩
  · exact hsame
  · exact absurd ((Path.above_child _ dir name).trans habove) hapart.2

theorem Confined.keeps_directory (h : Confined p t t') (hq : ¬p.Above t.home q)
    (hdirectory : t.at? q = some .directory) : t'.at? q = some .directory := by
  rcases h.elsewhere q hq with hsame | ⟨-, -, hmade⟩
  · rw [hsame]
    exact hdirectory
  · exact hmade

theorem Confined.clear (h : Confined p t t') (hapart : p.Apart t.home dir) (hclear : t.Clear dir) : t'.Clear dir := by
  intro q hq text hfile
  have hbelow : ¬p.Above t.home q := fun habove => hapart.1 (habove.trans (Path.above_of_mem_trail hq))
  rcases h.elsewhere q hbelow with hsame | ⟨-, -, hmade⟩
  · exact hclear q hq text (hsame ▸ hfile)
  · rw [hmade] at hfile
    cases hfile

theorem confined_make (p : Path) (t : FileTree) : Confined p t (t.make p).1 := by
  refine ⟨home_makeEach _ t, fun q _ => (at?_makeEach p.trail t q).imp_right ?_⟩
  rintro ⟨⟨q', hq', heq⟩, hnone, hmade⟩
  exact ⟨(Path.above_of_names_eq heq).trans (Path.above_of_mem_trail hq'), hnone, hmade⟩

theorem confined_write? (hwrite : t.write? (dir.child name) text = some t') : Confined dir t t' := by
  refine ⟨home_write? hwrite, fun q hq => .inl (at?_write? hwrite fun heq => hq ?_)⟩
  exact (Path.above_child _ dir name).trans (Path.above_of_names_eq heq.symm)

end FileTree
end DoomPatch
