import DoomPatch.Proofs.Store.FileTree
import DoomPatch.Proofs.Store.Manifest
import DoomPatch.Store.Directory

/-!
# Runs in a directory

What one save does to a tree of files, and what a load finds there.

* `Directory.Stores` — the files of a run stand in a directory; `load_of_stores` — from there it is loaded.
* `Directory.SaveEnds` — the ways in which a save ends.
* `stores_save` — a save that succeeds puts them there, whatever the tree.
* `confined_save` — any save stays below the place of its run, but for directories on the way.
* `Directory.Fits`, `Directory.Vacant`, `save_of_fits` — the names under which a save succeeds.
-/

namespace DoomPatch
namespace Directory

variable {d : Directory} {t t' : FileTree} {r : Run} {dir : Path} {id name text : String}

/-! ## The files of a run -/

/-- The names of the files that a run can have. -/
def fileNames : List String := "run.toml" :: LumpKind.all.map fun k => k.name ++ ".txt"

theorem join_fileName (dir : Path) (hname : name ∈ fileNames) : dir.join name = dir.child name := by
  have hplain : ∀ name ∈ fileNames, '/' ∉ name.toList ∧ (name.toList.any fun c => decide (c ≠ '.')) = true := by decide
  obtain ⟨hslash, hany⟩ := hplain name hname
  obtain ⟨c, hc, hdot⟩ := List.any_eq_true.1 hany
  exact Path.join_eq_child dir hslash ⟨c, hc, of_decide_eq_true hdot⟩

theorem ordinary_fileName (home : List String) (dir : Path) (hname : name ∈ fileNames) :
    FileTree.Ordinary home (dir.child name) := by
  have hplain : ∀ name ∈ fileNames, name ∉ ["dev", "null"] := by decide
  exact FileTree.ordinary_child home dir (hplain name hname)

theorem manifest_mem_fileNames : "run.toml" ∈ fileNames := List.mem_cons_self

theorem lump_mem_fileNames {k : LumpKind} (hk : k ∈ LumpKind.all) : k.name ++ ".txt" ∈ fileNames :=
  List.mem_cons_of_mem _ (List.mem_map.2 ⟨k, hk, rfl⟩)

theorem manifestFile_eq (dir : Path) : manifestFile dir = dir.child "run.toml" :=
  join_fileName dir manifest_mem_fileNames

theorem lumpFile_eq (dir : Path) (hname : name ++ ".txt" ∈ fileNames) :
    lumpFile dir name = dir.child (name ++ ".txt") := join_fileName dir hname

/-- The lumps of a buffer have file names, different ones, and none of them that of the manifest. -/
theorem fileNames_of_lumps {lumps : List Lump} {b : Buffer} (hb : lumps = b.lumps) :
    (∀ l ∈ lumps, l.name ++ ".txt" ∈ fileNames) ∧ (lumps.map fun l => l.name ++ ".txt").Nodup ∧
      "run.toml" ∉ lumps.map fun l => l.name ++ ".txt" := by
  subst hb
  have hkinds : ∀ l ∈ b.lumps, l.kind ∈ LumpKind.all ∧ l.name = l.kind.name := fun l hl =>
    ⟨(Buffer.mem_lumps_iff.1 hl).1, (Buffer.mem_lumps_iff.1 hl).2.1⟩
  have hmanifest : ∀ k ∈ LumpKind.all, k.name ++ ".txt" ≠ "run.toml" := by decide
  refine ⟨fun l hl => ?_, ?_, fun hmem => ?_⟩
  · rw [(hkinds l hl).2]
    exact lump_mem_fileNames (hkinds l hl).1
  · have hnodup := b.nodup_names
    rw [List.Nodup, List.pairwise_map] at hnodup ⊢
    exact hnodup.imp fun hne heq => hne (String.append_left_inj _ |>.1 heq)
  · obtain ⟨l, hl, heq⟩ := List.mem_map.1 hmem
    rw [(hkinds l hl).2] at heq
    exact hmanifest l.kind (hkinds l hl).1 heq

/-- The files of a run stand in a directory. -/
structure Stores (t : FileTree) (dir : Path) (r : Run) : Prop where
  manifest : t.read (dir.child "run.toml") = .ok (Manifest.ofRun r).text
  lumps : ∀ l ∈ r.lumps, t.read (dir.child (l.name ++ ".txt")) = .ok l.text

theorem Stores.leads (hstores : Stores t dir r) : t.Leads dir := FileTree.leads_of_read hstores.manifest

theorem loadLumps_of_stores {b : Buffer} (hb : r.lumps = b.lumps) (hstores : Stores t dir r) (id : String)
    {kinds : List LumpKind} (hkinds : ∀ k ∈ kinds, k ∈ LumpKind.all) :
    loadLumps id dir t (Manifest.ofRun r).digests kinds =
      .ok (kinds.filterMap fun k => (b.find? k).map fun t => (⟨k, k.name, t⟩ : Lump)) := by
  induction kinds with
  | nil => rfl
  | cons k kinds ih =>
      have hk := hkinds k List.mem_cons_self
      have hrest := ih fun k' hk' => hkinds k' (List.mem_cons_of_mem _ hk')
      unfold loadLumps
      rw [Manifest.get?_digests_ofRun hb hk, List.filterMap_cons]
      cases hfind : b.find? k with
      | none => exact hrest
      | some text =>
          have hlump : (⟨k, k.name, text⟩ : Lump) ∈ r.lumps := hb ▸ Buffer.mem_lumps_iff.2 ⟨hk, rfl, hfind⟩
          rw [Option.map_some]
          dsimp only
          rw [lumpFile_eq dir (lump_mem_fileNames hk), hstores.lumps _ hlump]
          dsimp only
          rw [StoreError.check_text, hrest]
          rfl

theorem load_eq_ok_iff {r' : Run} : d.load t id = .ok r' ↔ ∃ text m lumps,
    t.read ((d.place id).child "run.toml") = .ok text ∧ Manifest.read? text = some m ∧
      loadLumps id (d.place id) t m.digests LumpKind.all = .ok lumps ∧ r' = ⟨m.id, m.created, lumps⟩ := by
  unfold load
  dsimp only
  rw [manifestFile_eq]
  cases hread : t.read ((d.place id).child "run.toml") with
  | error e => cases e <;> simp
  | ok text =>
      cases hmanifest : Manifest.read? text with
      | none => simp [hmanifest]
      | some m =>
          cases hlumps : loadLumps id (d.place id) t m.digests LumpKind.all with
          | error e => simp [hmanifest, hlumps, Except.map]
          | ok lumps => simp [hmanifest, hlumps, Except.map, eq_comm]

/-- A run whose files stand at a place is loaded from there. -/
theorem load_of_stores (hr : r.Recordable) (hstores : Stores t (d.place id) r) : d.load t id = .ok r.utc := by
  obtain ⟨b, hb⟩ := hr.lumps
  refine load_eq_ok_iff.2 ⟨_, _, _, hstores.manifest, Manifest.read?_text (Manifest.recordable_ofRun hr),
    loadLumps_of_stores hb hstores id fun _ hk => hk, ?_⟩
  obtain ⟨rid, created, lumps⟩ := r
  obtain rfl : lumps = b.lumps := hb
  rfl

/-! ## Writing lumps -/

theorem confined_writeLumps {lumps : List Lump} (hlumps : ∀ l ∈ lumps, l.name ++ ".txt" ∈ fileNames) (dir : Path)
    (t : FileTree) : FileTree.Confined dir t (writeLumps dir t lumps).1 := by
  induction lumps generalizing t with
  | nil => exact .refl dir t
  | cons l lumps ih =>
      obtain ⟨hl, hlumps⟩ := List.forall_mem_cons.1 hlumps
      unfold writeLumps
      rw [lumpFile_eq dir hl]
      cases hwrite : t.write? (dir.child (l.name ++ ".txt")) l.text with
      | none => exact .refl dir t
      | some t₁ => exact (FileTree.confined_write? hwrite).trans (ih hlumps t₁)

theorem home_writeLumps (dir : Path) (t : FileTree) (lumps : List Lump) : (writeLumps dir t lumps).1.home = t.home := by
  induction lumps generalizing t with
  | nil => rfl
  | cons l lumps ih =>
      unfold writeLumps
      cases hwrite : t.write? (lumpFile dir l.name) l.text with
      | none => rfl
      | some t₁ => exact (ih t₁).trans (FileTree.home_write? hwrite)

/-- What stands beside the lumps stays. -/
theorem at?_writeLumps {lumps : List Lump} {q : Path} {t : FileTree}
    (hq : ∀ l ∈ lumps, q.names t.home ≠ (lumpFile dir l.name).names t.home) :
    (writeLumps dir t lumps).1.at? q = t.at? q := by
  induction lumps generalizing t with
  | nil => rfl
  | cons l lumps ih =>
      obtain ⟨hne, hq⟩ := List.forall_mem_cons.1 hq
      unfold writeLumps
      cases hwrite : t.write? (lumpFile dir l.name) l.text with
      | none => rfl
      | some t₁ =>
          rw [← FileTree.home_write? hwrite] at hq
          exact (ih hq).trans (FileTree.at?_write? hwrite hne)

/-- No lump is written to a manifest: its file, wherever its name leads, has an ending of its own. -/
theorem manifest_ne_lumpFile (home : List String) (p dir : Path) (name : String) :
    (p.child "run.toml").names home ≠ (lumpFile dir name).names home := by
  obtain ⟨above, stem, hjoin⟩ := dir.join_append name
  have hfile : lumpFile dir name = above.child (stem ++ ".txt") :=
    hjoin ".txt" (by decide) (Exists.intro 't' (by decide))
  rw [hfile, Path.names_child, Path.names_child]
  intro hsame
  have hname : "run.toml" = stem ++ ".txt" := by simpa using (List.append_inj' hsame rfl).2
  have hlast := congrArg (fun s => s.toList.getLast?) hname
  simp at hlast

/-- Behind clearing a place, making it and writing any lumps, there is no manifest at the place or below. -/
theorem no_manifest_of_gone {place : Path} {t₁ : FileTree} (hclear : t.clear place = .gone t₁) (lumps : List Lump)
    (habove : place.Above t.home dir) (text : String) :
    (writeLumps place (t₁.make place).1 lumps).1.at? (dir.child "run.toml") ≠ some (.file text) := by
  obtain ⟨-, hgone, -⟩ := FileTree.gone_clear hclear
  rw [at?_writeLumps fun l _ => manifest_ne_lumpFile _ dir _ l.name]
  rcases FileTree.at?_makeEach place.trail t₁ (dir.child "run.toml") with hsame | ⟨-, -, hmade⟩
  · simp [FileTree.make, hsame, hgone _ (habove.trans (Path.above_child _ dir "run.toml"))]
  · simp [FileTree.make, hmade]

/-- A file of the directory that is not written again can still be read. -/
theorem read_writeLumps {lumps : List Lump} (hlumps : ∀ l ∈ lumps, l.name ++ ".txt" ∈ fileNames)
    (hname : name ∉ lumps.map fun l => l.name ++ ".txt") (hread : t.read (dir.child name) = .ok text) :
    (writeLumps dir t lumps).1.read (dir.child name) = .ok text := by
  refine FileTree.read_child_of_kept hread (at?_writeLumps fun l hl hsame => ?_)
  rw [lumpFile_eq dir (hlumps l hl), Path.names_child, Path.names_child] at hsame
  exact hname (List.mem_map.2 ⟨l, hl, by simpa using hsame.symm⟩)

/-- Lumps that were all written can be read. -/
theorem read_of_writeLumps {lumps : List Lump} (hlumps : ∀ l ∈ lumps, l.name ++ ".txt" ∈ fileNames)
    (hnames : (lumps.map fun l => l.name ++ ".txt").Nodup) (hwritten : writeLumps dir t lumps = (t', none)) :
    ∀ l ∈ lumps, t'.read (dir.child (l.name ++ ".txt")) = .ok l.text := by
  induction lumps generalizing t with
  | nil => simp
  | cons l lumps ih =>
      obtain ⟨hl, hlumps⟩ := List.forall_mem_cons.1 hlumps
      rw [List.map_cons, List.nodup_cons] at hnames
      unfold writeLumps at hwritten
      rw [lumpFile_eq dir hl] at hwritten
      cases hwrite : t.write? (dir.child (l.name ++ ".txt")) l.text with
      | none =>
          rw [hwrite] at hwritten
          cases hwritten
      | some t₁ =>
          rw [hwrite] at hwritten
          have hfirst := FileTree.read_of_write? (ordinary_fileName _ dir hl) hwrite
          have hkept := read_writeLumps hlumps hnames.1 hfirst
          rw [show writeLumps dir t₁ lumps = (t', none) from hwritten] at hkept
          exact List.forall_mem_cons.2 ⟨hkept, ih hlumps hnames.2 hwritten⟩

/-! ## What a save does -/

/-- The ways in which a save ends: what it leaves, and its answer. -/
inductive SaveEnds (d : Directory) (t : FileTree) (r : Run) : FileTree → Except StoreError String → Prop where
  | refused (hclear : t.clear (d.place r.id) = .refused) : SaveEnds d t r t (.error (.clear (d.place r.id).text))
  | emptied {t₁ : FileTree} (hclear : t.clear (d.place r.id) = .emptied t₁) :
      SaveEnds d t r t₁ (.error (.clear (d.place r.id).text))
  | unmade {t₁ : FileTree} (hclear : t.clear (d.place r.id) = .gone t₁) (hmade : (t₁.make (d.place r.id)).2 = false) :
      SaveEnds d t r (t₁.make (d.place r.id)).1 (.error (.create (d.place r.id).text))
  | unwritten {t₁ t₂ : FileTree} {path : Path} (hclear : t.clear (d.place r.id) = .gone t₁)
      (hmade : (t₁.make (d.place r.id)).2 = true)
      (hwritten : writeLumps (d.place r.id) (t₁.make (d.place r.id)).1 r.lumps = (t₂, some path)) :
      SaveEnds d t r t₂ (.error (.writeLump path.text))
  | unlisted {t₁ t₂ : FileTree} (hclear : t.clear (d.place r.id) = .gone t₁)
      (hmade : (t₁.make (d.place r.id)).2 = true)
      (hwritten : writeLumps (d.place r.id) (t₁.make (d.place r.id)).1 r.lumps = (t₂, none))
      (hwrite : t₂.write? (manifestFile (d.place r.id)) (Manifest.ofRun r).text = none) :
      SaveEnds d t r t₂ (.error .writeManifest)
  | stored {t₁ t₂ t₃ : FileTree} (hclear : t.clear (d.place r.id) = .gone t₁)
      (hmade : (t₁.make (d.place r.id)).2 = true)
      (hwritten : writeLumps (d.place r.id) (t₁.make (d.place r.id)).1 r.lumps = (t₂, none))
      (hwrite : t₂.write? (manifestFile (d.place r.id)) (Manifest.ofRun r).text = some t₃) :
      SaveEnds d t r t₃ (.ok (d.place r.id).text)

theorem save_ends (d : Directory) (t : FileTree) (r : Run) : SaveEnds d t r (d.save t r).1 (d.save t r).2 := by
  unfold save
  dsimp only
  cases hclear : t.clear (d.place r.id) with
  | refused => exact .refused hclear
  | emptied t₁ => exact .emptied hclear
  | gone t₁ =>
      dsimp only
      rcases hmake : t₁.make (d.place r.id) with ⟨made, ok⟩
      obtain rfl : (t₁.make (d.place r.id)).1 = made := by rw [hmake]
      have hmade : (t₁.make (d.place r.id)).2 = ok := by rw [hmake]
      cases ok with
      | false => exact .unmade hclear hmade
      | true =>
          dsimp only
          rcases hwritten : writeLumps (d.place r.id) (t₁.make (d.place r.id)).1 r.lumps with ⟨t₂, failed⟩
          cases failed with
          | some path => exact .unwritten hclear hmade hwritten
          | none =>
              dsimp only
              cases hwrite : t₂.write? (manifestFile (d.place r.id)) (Manifest.ofRun r).text with
              | none => exact .unlisted hclear hmade hwritten hwrite
              | some t₃ => exact .stored hclear hmade hwritten hwrite

theorem save_eq_ok {answer : String} (hsave : (d.save t r).2 = .ok answer) :
    ∃ t₁ t₂, t.clear (d.place r.id) = .gone t₁ ∧ (t₁.make (d.place r.id)).2 = true ∧
      writeLumps (d.place r.id) (t₁.make (d.place r.id)).1 r.lumps = (t₂, none) ∧
      t₂.write? (manifestFile (d.place r.id)) (Manifest.ofRun r).text = some (d.save t r).1 := by
  have hends := save_ends d t r
  rw [hsave] at hends
  generalize (d.save t r).1 = t' at hends ⊢
  cases hends with
  | stored hclear hmade hwritten hwrite => exact ⟨_, _, hclear, hmade, hwritten, hwrite⟩

/-- A save that succeeds puts the files of the run at its place, whatever stood there. -/
theorem stores_save {b : Buffer} (hb : r.lumps = b.lumps) {answer : String} (hsave : (d.save t r).2 = .ok answer) :
    Stores (d.save t r).1 (d.place r.id) r := by
  obtain ⟨hlumps, hnames, hmanifest⟩ := fileNames_of_lumps hb
  obtain ⟨t₁, t₂, -, -, hwritten, hwrite⟩ := save_eq_ok hsave
  rw [manifestFile_eq] at hwrite
  refine ⟨FileTree.read_of_write? (ordinary_fileName _ _ manifest_mem_fileNames) hwrite, fun l hl => ?_⟩
  -- The manifest is written last, and beside the lumps.
  refine FileTree.read_child_of_kept (read_of_writeLumps hlumps hnames hwritten l hl) (FileTree.at?_write? hwrite ?_)
  intro hsame
  rw [Path.names_child, Path.names_child] at hsame
  exact hmanifest (List.mem_map.2 ⟨l, hl, by simpa using hsame⟩)

/-- A save stays below the place of its run, but for directories on the way, also if it fails. -/
theorem confined_save {b : Buffer} (hb : r.lumps = b.lumps) (d : Directory) (t : FileTree) :
    FileTree.Confined (d.place r.id) t (d.save t r).1 := by
  obtain ⟨hlumps, -, -⟩ := fileNames_of_lumps hb
  have hmake : ∀ {t₁}, t.clear (d.place r.id) = .gone t₁ →
      FileTree.Confined (d.place r.id) t (t₁.make (d.place r.id)).1 := fun hclear =>
    (FileTree.confined_gone hclear).trans (FileTree.confined_make _ _)
  have hlump : ∀ {t₁ t₂ failed}, t.clear (d.place r.id) = .gone t₁ →
      writeLumps (d.place r.id) (t₁.make (d.place r.id)).1 r.lumps = (t₂, failed) →
      FileTree.Confined (d.place r.id) t t₂ := by
    intro t₁ t₂ failed hclear hwritten
    have hconfined := confined_writeLumps hlumps (d.place r.id) (t₁.make (d.place r.id)).1
    rw [hwritten] at hconfined
    exact (hmake hclear).trans hconfined
  have hends := save_ends d t r
  generalize (d.save t r).1 = t' at hends ⊢
  generalize (d.save t r).2 = answer at hends
  cases hends with
  | refused => exact .refl _ t
  | emptied hclear => exact FileTree.confined_emptied hclear
  | unmade hclear => exact hmake hclear
  | unwritten hclear hmade hwritten => exact hlump hclear hwritten
  | unlisted hclear hmade hwritten => exact hlump hclear hwritten
  | stored hclear hmade hwritten hwrite =>
      rw [manifestFile_eq] at hwrite
      exact (hlump hclear hwritten).trans (FileTree.confined_write? hwrite)

theorem Stores.confined {p : Path} (hstores : Stores t dir r) (h : FileTree.Confined p t t')
    (hapart : p.Apart t.home dir) : Stores t' dir r :=
  ⟨FileTree.read_child_of_kept hstores.manifest (h.at?_child hapart _),
    fun l hl => FileTree.read_child_of_kept (hstores.lumps l hl) (h.at?_child hapart _)⟩

/-! ## Names under which a save succeeds -/

/-- A run of the name has a place of its own, and a disk takes the names of its files. -/
structure Fits (d : Directory) (home : List String) (id : String) : Prop where
  named : (d.place id).parts ≠ []
  ordinary : FileTree.Ordinary home (d.place id)
  nameable : ∀ name ∈ fileNames, ((d.place id).child name).Nameable

/-- No file of a run stands in the directory. -/
def Bare (t : FileTree) (dir : Path) : Prop := ∀ name ∈ fileNames, t.at? (dir.child name) = none

/-- The directory from which a path goes down is there, and no file stands in the way to its place. -/
structure Open (t : FileTree) (dir : Path) : Prop where
  base : t.at? dir.base = some .directory
  clear : t.Clear dir

/-- There is a way to the place, and no file of a run stands there. -/
structure Vacant (t : FileTree) (dir : Path) : Prop extends Open t dir where
  bare : Bare t dir

/-- The directory is there, and no directory stands where a run has a file. -/
structure Ready (t : FileTree) (dir : Path) : Prop where
  leads : t.Leads dir
  unoccupied : ∀ name ∈ fileNames, t.at? (dir.child name) ≠ some .directory

theorem Fits.nameable_place {home : List String} (hfits : d.Fits home id) : (d.place id).Nameable :=
  (hfits.nameable _ manifest_mem_fileNames).of_child

theorem Fits.isWritable {home : List String} (hfits : d.Fits home id) : Path.isWritable (d.place id).text = true :=
  (hfits.nameable_place _ (Path.mem_trail_self hfits.named)).2

theorem Ready.write (hready : Ready t dir) (hname : name ∈ fileNames)
    (hwrite : t.write? (dir.child name) text = some t') : Ready t' dir := by
  have hread := FileTree.read_of_write? (ordinary_fileName _ dir hname) hwrite
  refine ⟨FileTree.leads_of_read hread, fun name' hname' => ?_⟩
  by_cases heq : name' = name
  · rw [heq, (FileTree.read_child_eq_ok_iff.1 hread).2]
    simp
  · rw [FileTree.at?_write? hwrite (by simpa using heq)]
    exact hready.unoccupied name' hname'

theorem Ready.writeLumps (hready : Ready t dir) (hdir : dir.parts ≠ []) (hwritable : Path.isWritable dir.text = true)
    (hnameable : ∀ name ∈ fileNames, (dir.child name).Nameable) {lumps : List Lump}
    (hlumps : ∀ l ∈ lumps, l.name ++ ".txt" ∈ fileNames) :
    ∃ t', Directory.writeLumps dir t lumps = (t', none) ∧ Ready t' dir := by
  induction lumps generalizing t with
  | nil => exact ⟨t, rfl, hready⟩
  | cons l lumps ih =>
      obtain ⟨hl, hlumps⟩ := List.forall_mem_cons.1 hlumps
      obtain ⟨t₁, hwrite⟩ := FileTree.exists_write?_child l.text hready.leads hdir hwritable (hnameable _ hl)
        (hready.unoccupied _ hl)
      unfold Directory.writeLumps
      rw [lumpFile_eq dir hl, hwrite]
      exact ih (hready.write hl hwrite) hlumps

/-- A place to which there is a way can be emptied. -/
theorem Fits.exists_clear (hfits : d.Fits t.home id) (hopen : Open t (d.place id)) :
    ∃ t₁, t.clear (d.place id) = .gone t₁ ∧ Vacant t₁ (d.place id) := by
  obtain ⟨t₁, hgone⟩ := FileTree.exists_clear hfits.nameable_place hfits.named hfits.ordinary hopen.clear
  obtain ⟨hhome, hbelow, hkept⟩ := FileTree.gone_clear hgone
  refine ⟨t₁, hgone, ⟨?_, fun q hq text => ?_⟩, fun name _ => hbelow _ (Path.above_child _ _ _)⟩
  · rw [hkept _ (Path.not_above_base _ hfits.named)]
    exact hopen.base
  · by_cases habove : (d.place id).Above t.home q
    · simp [hbelow q habove]
    · rw [hkept q habove]
      exact hopen.clear q hq text

theorem Fits.make {home : List String} (hfits : d.Fits home id) (hvacant : Vacant t (d.place id)) :
    (t.make (d.place id)).2 = true ∧ Ready (t.make (d.place id)).1 (d.place id) := by
  obtain ⟨hmade, hentry⟩ := FileTree.make_of_clear hfits.nameable_place hvacant.base hvacant.clear
  refine ⟨hmade, fun q hq => ⟨(hfits.nameable_place q hq).1, ?_⟩, fun name hname => ?_⟩
  · by_cases heq : q.names (t.make (d.place id)).1.home = (d.place id).names (t.make (d.place id)).1.home
    · rw [FileTree.at?, heq]
      exact hentry
    · exact FileTree.at?_of_above (by simp [hentry]) (Path.above_of_mem_trail hq) heq
  · rcases FileTree.at?_makeEach (d.place id).trail t ((d.place id).child name) with hsame | ⟨⟨q, hq, heq⟩, -, -⟩
    · rw [FileTree.make, hsame, hvacant.bare name hname]
      simp
    · exact absurd heq.symm (Path.names_ne_of_mem_trail hq name)

/-- Under a name that fits, a run is saved at its place. -/
theorem save_of_fits {b : Buffer} (hb : r.lumps = b.lumps) (hfits : d.Fits t.home r.id)
    (hopen : Open t (d.place r.id)) : (d.save t r).2 = .ok (d.place r.id).text := by
  obtain ⟨hlumps, -, -⟩ := fileNames_of_lumps hb
  obtain ⟨t₁, hcleared, hvacant⟩ := hfits.exists_clear hopen
  obtain ⟨hmade, hready⟩ := hfits.make hvacant
  obtain ⟨t₂, hwritten, hready₂⟩ := hready.writeLumps hfits.named hfits.isWritable hfits.nameable hlumps
  obtain ⟨t₃, hwrite⟩ := FileTree.exists_write?_child (Manifest.ofRun r).text hready₂.leads hfits.named
    hfits.isWritable (hfits.nameable _ manifest_mem_fileNames) (hready₂.unoccupied _ manifest_mem_fileNames)
  unfold save
  dsimp only
  rw [hcleared]
  dsimp only
  rcases hmake : t₁.make (d.place r.id) with ⟨made, ok⟩
  rw [hmake] at hmade hwritten
  obtain rfl : ok = true := hmade
  dsimp only at hwritten ⊢
  rw [hwritten]
  dsimp only
  rw [manifestFile_eq, hwrite]

/-- Where no run stands, none is found. -/
theorem load_of_vacant {home : List String} (hfits : d.Fits home id) (hvacant : Vacant t (d.place id)) :
    d.load t id = .error (.unknown id) := by
  unfold load
  dsimp only
  rw [manifestFile_eq, FileTree.read_child_of_none (hfits.nameable _ manifest_mem_fileNames) hvacant.clear
    (hvacant.bare _ manifest_mem_fileNames)]

end Directory
end DoomPatch
