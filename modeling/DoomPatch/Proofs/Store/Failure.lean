import DoomPatch.Proofs.Store.Apart
import DoomPatch.Proofs.Store.Hash

/-!
# Saves that fail

A hash server takes a run whole or not at all.  A directory is emptied before the files of the run are written: where a
save fails behind that, the run that stood there is gone, and so are those below it.  So it is where the directory
itself cannot be removed, because its path names the top or ends in the way up.  The names of lumps may lead out of the
directory; what is not at the place of the run, nor at that of one of its lumps, is kept.

* `StoreError.isHalfway`, `Store.Begun` — a save had begun to replace the run when it failed.
* `Directory.Touches` — the places that a save can change before the manifest is written.
* `Directory.Halfway`, `halfway_save` — what such a save leaves.
* `Store.load_of_failed_save` — what is loaded behind a save that failed.
-/

namespace DoomPatch

/-- Whether the save failed behind clearing the place of the run. -/
def StoreError.isHalfway : StoreError → Bool
  | .create _ | .writeLump _ | .writeManifest => true
  | _ => false

namespace Directory

variable {d : Directory} {t t' : FileTree} {r : Run} {dir p q : Path} {id name : String}

/-! ## What a save leaves when it fails -/

/-- The place is one that a save can change before the manifest is written, other than by making directories: that of
the run or one below it, or that of a lump. -/
def Touches (d : Directory) (home : List String) (r : Run) (p : Path) : Prop :=
  (d.place r.id).Above home p ∨ ∃ l ∈ r.lumps, p.names home = (lumpFile (d.place r.id) l.name).names home

instance (d : Directory) (home : List String) (r : Run) (p : Path) : Decidable (d.Touches home r p) :=
  inferInstanceAs (Decidable (_ ∨ _))

/-- No file of a run with the name is touched. -/
def Spares (d : Directory) (home : List String) (r : Run) (id : String) : Prop :=
  ∀ name ∈ fileNames, ¬d.Touches home r ((d.place id).child name)

instance (d : Directory) (home : List String) (r : Run) (id : String) : Decidable (d.Spares home r id) :=
  inferInstanceAs (Decidable (∀ name ∈ fileNames, _))

/-- What a save leaves that had begun to replace the run. -/
structure Halfway (d : Directory) (r : Run) (t t' : FileTree) : Prop where
  untouched : ∀ q, ¬d.Touches t.home r q → t'.at? q = t.at? q ∨ (t.at? q = none ∧ t'.at? q = some .directory)
  dropped : ∀ dir, (d.place r.id).Above t.home dir → ∀ text, t'.at? (dir.child "run.toml") ≠ some (.file text)

/-- A place that is gone, and some of the lumps. -/
theorem halfway_of_gone {t₁ : FileTree} (hclear : t.clear (d.place r.id) = .gone t₁) {lumps : List Lump}
    (hlumps : lumps ⊆ r.lumps) :
    Halfway d r t (writeLumps (d.place r.id) (t₁.make (d.place r.id)).1 lumps).1 := by
  obtain ⟨hhome, -, hkept⟩ := FileTree.gone_clear hclear
  have hmade : (t₁.make (d.place r.id)).1.home = t.home := (FileTree.home_makeEach _ t₁).trans hhome
  refine ⟨fun q hq => ?_, fun dir habove => no_manifest_of_gone hclear lumps habove⟩
  obtain ⟨hplace, hfiles⟩ := not_or.1 hq
  rw [at?_writeLumps fun l hl hsame => hfiles ⟨l, hlumps hl, hmade ▸ hsame⟩, ← hkept q hplace]
  exact (FileTree.at?_makeEach _ t₁ q).imp_right And.right

/-- A place that stays, but is empty. -/
theorem halfway_of_emptied (hclear : t.clear (d.place r.id) = .emptied t') : Halfway d r t t' := by
  obtain ⟨rfl, -⟩ := FileTree.emptied_clear hclear
  refine ⟨fun q hq => .inl (t.at?_hollow_of_not_above (not_or.1 hq).1), fun dir habove text => ?_⟩
  rw [t.at?_hollow_child (ordinary_fileName _ dir manifest_mem_fileNames) habove]
  exact nofun

/-- A save that fails has not begun, or leaves the place empty. -/
theorem halfway_save {e : StoreError} (hsave : (d.save t r).2 = .error e) :
    (e.isHalfway = false ∧ t.clear (d.place r.id) = .refused ∧ (d.save t r).1 = t) ∨
      ((e.isHalfway = true ∨ t.clear (d.place r.id) = .emptied (d.save t r).1) ∧ Halfway d r t (d.save t r).1) := by
  have hlump : ∀ {t₁ t₂ failed}, t.clear (d.place r.id) = .gone t₁ →
      writeLumps (d.place r.id) (t₁.make (d.place r.id)).1 r.lumps = (t₂, failed) → Halfway d r t t₂ := by
    intro t₁ t₂ failed hclear hwritten
    have hhalfway := halfway_of_gone hclear (List.Subset.refl r.lumps)
    rwa [hwritten] at hhalfway
  have hends := save_ends d t r
  rw [hsave] at hends
  generalize (d.save t r).1 = t' at hends ⊢
  cases hends with
  | refused hclear => exact .inl ⟨rfl, hclear, rfl⟩
  | emptied hclear => exact .inr ⟨.inr hclear, halfway_of_emptied hclear⟩
  | unmade hclear => exact .inr ⟨.inl rfl, halfway_of_gone hclear (List.nil_subset r.lumps)⟩
  | unwritten hclear hmade hwritten => exact .inr ⟨.inl rfl, hlump hclear hwritten⟩
  | unlisted hclear hmade hwritten => exact .inr ⟨.inl rfl, hlump hclear hwritten⟩

/-! ## What is loaded afterwards -/

theorem loadLumps_of_reads (hreads : ∀ name ∈ fileNames, ∀ text, t.read (dir.child name) = .ok text →
    t'.read (dir.child name) = .ok text) {digests : SortedMap String String} {kinds : List LumpKind}
    (hkinds : ∀ k ∈ kinds, k ∈ LumpKind.all) {lumps : List Lump}
    (hload : loadLumps id dir t digests kinds = .ok lumps) : loadLumps id dir t' digests kinds = .ok lumps := by
  induction kinds generalizing lumps with
  | nil => exact hload
  | cons k kinds ih =>
      obtain ⟨hk, hkinds⟩ := List.forall_mem_cons.1 hkinds
      have hname := lump_mem_fileNames hk
      unfold loadLumps at hload ⊢
      cases hdigest : digests.get? k.name with
      | none =>
          rw [hdigest] at hload
          exact ih hkinds hload
      | some stored =>
          rw [hdigest] at hload
          dsimp only at hload ⊢
          rw [lumpFile_eq _ hname] at hload ⊢
          cases hread : t.read (dir.child (k.name ++ ".txt")) with
          | error e =>
              rw [hread] at hload
              cases hload
          | ok text =>
              rw [hread] at hload
              rw [hreads _ hname text hread]
              dsimp only at hload ⊢
              cases hcheck : StoreError.check id k.name text stored with
              | error e =>
                  rw [hcheck] at hload
                  cases hload
              | ok _ =>
                  rw [hcheck] at hload
                  dsimp only at hload ⊢
                  cases hrest : loadLumps id dir t digests kinds with
                  | error e =>
                      rw [hrest] at hload
                      cases hload
                  | ok rest =>
                      rw [hrest] at hload
                      rw [ih hkinds hrest]
                      exact hload

/-- What is loaded depends on the files that can be read. -/
theorem load_of_reads (hreads : ∀ name ∈ fileNames, ∀ text, t.read ((d.place id).child name) = .ok text →
    t'.read ((d.place id).child name) = .ok text) {r' : Run} (hload : d.load t id = .ok r') :
    d.load t' id = .ok r' := by
  obtain ⟨text, m, lumps, hread, hmanifest, hlumps, hrun⟩ := load_eq_ok_iff.1 hload
  exact load_eq_ok_iff.2 ⟨text, m, lumps, hreads _ manifest_mem_fileNames text hread, hmanifest,
    loadLumps_of_reads hreads (fun _ hk => hk) hlumps, hrun⟩

/-- A run at or below the place is gone. -/
theorem Halfway.load_ne_ok (h : Halfway d r t t') (habove : (d.place r.id).Above t.home (d.place id)) (r' : Run) :
    d.load t' id ≠ .ok r' := by
  intro hload
  obtain ⟨text, -, -, hread, -⟩ := load_eq_ok_iff.1 hload
  exact h.dropped (d.place id) habove text (FileTree.read_child_eq_ok_iff.1 hread).2

/-- A run of which no file is touched is loaded as before, and none appears. -/
theorem Halfway.loaded_iff (h : Halfway d r t t') (hspares : d.Spares t.home r id) (r' : Run) :
    d.load t' id = .ok r' ↔ d.load t id = .ok r' := by
  have hread : ∀ name ∈ fileNames, ∀ text,
      t'.read ((d.place id).child name) = .ok text ↔ t.read ((d.place id).child name) = .ok text := by
    intro name hname text
    rw [FileTree.read_child_eq_ok_iff, FileTree.read_child_eq_ok_iff]
    refine and_congr_right fun _ => ?_
    rcases h.untouched _ (hspares name hname) with hsame | ⟨hnone, hmade⟩
    · rw [hsame]
    · simp [hnone, hmade]
  exact ⟨load_of_reads fun name hname text => (hread name hname text).1,
    load_of_reads fun name hname text => (hread name hname text).2⟩

end Directory

/-- A hash server that does not take a run keeps what it has. -/
theorem HashStore.save_eq_error {h : HashStore} {s : HashServer} {r : Run} {e : StoreError}
    (hfail : (h.save s r).2 = .error e) : e = .send r.id ∧ (h.save s r).1 = s := by
  rcases h.save_cases s r with ⟨-, -, hsaved⟩ | hrefused
  · rw [hsaved] at hfail
    cases hfail
  · rw [hrefused] at hfail ⊢
    cases hfail
    exact ⟨rfl, rfl⟩

namespace Store

/-- The save had begun to replace the run when it failed: it failed behind clearing the place, or the place was emptied
but stays. -/
def Begun (s : Store) (m : Medium) (run : Option Run) (e : StoreError) : Prop :=
  e.isHalfway = true ∨ ∃ d r t, s = .directory d ∧ run = some r ∧ r.id ≠ "" ∧ m.files.clear (d.place r.id) = .emptied t

/-- If a save fails before it has begun to replace the run, the medium is as it was.  This is so of every failure of a
hash server.  If a save to a directory fails later, no run is loaded from its place or below.  Elsewhere, what was
loaded under a name of which no file is touched is loaded as before, and nothing else is. -/
theorem load_of_failed_save {s : Store} {m : Medium} {run : Option Run} {e : StoreError}
    (hfail : (s.save m run).2 = .error e) :
    (¬s.Begun m run e → (s.save m run).1 = m) ∧
      (s.Begun m run e → ∃ d r, s = .directory d ∧ run = some r ∧ ∀ id,
        ((d.place r.id).Above m.files.home (d.place id) → ∀ r', s.load (s.save m run).1 (some id) ≠ .ok r') ∧
        (d.Spares m.files.home r id →
          ∀ r', s.load (s.save m run).1 (some id) = .ok r' ↔ s.load m (some id) = .ok r')) := by
  cases run with
  | none =>
      cases hfail
      refine ⟨fun _ => rfl, ?_⟩
      rintro (hlate | ⟨_, _, _, _, hrun, _⟩)
      · cases hlate
      · cases hrun
  | some r =>
      by_cases hid : r.id = ""
      · unfold save at hfail ⊢
        dsimp only at hfail ⊢
        rw [if_pos hid] at hfail ⊢
        cases hfail
        refine ⟨fun _ => rfl, ?_⟩
        rintro (hlate | ⟨_, _, _, _, hrun, hname, _⟩)
        · cases hlate
        · cases hrun
          exact absurd hid hname
      · cases s with
        | hashes h =>
            rw [save_hashes h m hid] at hfail ⊢
            dsimp only at hfail ⊢
            obtain ⟨rfl, hsame⟩ := HashStore.save_eq_error hfail
            refine ⟨fun _ => by rw [hsame], ?_⟩
            rintro (hlate | ⟨_, _, _, hstore, _⟩)
            · cases hlate
            · cases hstore
        | directory d =>
            rw [save_directory d m hid] at hfail ⊢
            dsimp only at hfail ⊢
            rcases Directory.halfway_save hfail with ⟨hearly, hrefused, hsame⟩ | ⟨hbegun, hhalfway⟩
            · refine ⟨fun _ => by rw [hsame], ?_⟩
              rintro (hlate | ⟨d', r', t, hstore, hrun, -, hemptied⟩)
              · rw [hearly] at hlate
                cases hlate
              · cases hstore
                cases hrun
                rw [hrefused] at hemptied
                cases hemptied
            · refine ⟨fun hnot => ?_, fun _ => ⟨d, r, rfl, rfl, fun id => ?_⟩⟩
              · refine absurd (hbegun.imp_right fun hemptied => ?_) hnot
                exact ⟨d, r, _, rfl, rfl, hid, hemptied⟩
              · by_cases hname : id = ""
                · subst hname
                  exact ⟨fun _ _ => nofun, fun _ _ => ⟨nofun, nofun⟩⟩
                · rw [load_directory d _ hname, load_directory d _ hname]
                  exact ⟨fun habove => hhalfway.load_ne_ok habove, fun hspares => hhalfway.loaded_iff hspares⟩

/-- A lump whose name leads into a directory that is not there: the run under the same name is gone, the one under
another name is kept.  And a name that leads to the top: the save fails, and no run is left. -/
theorem load_of_failed_save_beside :
    let store : Store := .directory ⟨"runs"⟩
    let m := store.afterAll {} [.save (Directory.emptyRun "a")]
    let r : String → Run := fun id => ⟨id, { seconds := 0 }, [⟨.things, "no/dir", "x"⟩]⟩
    let deep : Store := .directory ⟨"/tmp/runs"⟩
    let m' := deep.afterAll {} [.save (Directory.emptyRun "a")]
    let top := some (Directory.emptyRun "../..")
    (store.load m (some "a") = .ok (Directory.emptyRun "a") ∧
      (∀ r', store.load (store.save m (some (r "a"))).1 (some "a") ≠ .ok r') ∧
      store.load (store.save m (some (r "b"))).1 (some "a") = .ok (Directory.emptyRun "a")) ∧
    deep.load m' (some "a") = .ok (Directory.emptyRun "a") ∧ (deep.save m' top).2 = .error (.clear "/") ∧
      ∀ r', deep.load (deep.save m' top).1 (some "a") ≠ .ok r' := by
  intro store m r deep m' top
  have hfits : ∀ root ∈ ["runs", "/tmp/runs"], (⟨root⟩ : Directory).Fits [] "a" := by
    intro root hroot
    refine ⟨?_, ?_, ?_⟩ <;> revert root <;> decide
  have hvacant : ∀ root ∈ ["runs", "/tmp/runs"],
      Directory.Vacant ({} : Medium).files ((⟨root⟩ : Directory).place "a") := by
    intro root hroot
    refine .of_unoccupied ?_ ?_ ?_ <;> revert root <;> decide
  have hstored : ∀ root ∈ ["runs", "/tmp/runs"], (Store.directory ⟨root⟩).load
      ((Store.directory ⟨root⟩).afterAll {} [.save (Directory.emptyRun "a")]) (some "a") =
        .ok (Directory.emptyRun "a") := fun root hroot =>
    Directory.load_of_names_eq (by decide) (by decide) (hfits root hroot) (hvacant root hroot) (hfits root hroot) rfl
  have hload := hstored "runs" (by decide)
  have hfail : (store.save m (some (r "a"))).2 = .error (.writeLump "runs/a/no/dir.txt") := by
    unfold r m store
    rfl
  have hfail' : (store.save m (some (r "b"))).2 = .error (.writeLump "runs/b/no/dir.txt") := by
    unfold r m store
    rfl
  have htop : (deep.save m' top).2 = .error (.clear "/") := rfl
  obtain ⟨d, ra, hstore, hrun, hgone⟩ := (load_of_failed_save hfail).2 (.inl rfl)
  obtain ⟨d', rb, hstore', hrun', hkept⟩ := (load_of_failed_save hfail').2 (.inl rfl)
  obtain ⟨d'', rc, hdeep, hrun'', hnone⟩ := (load_of_failed_save htop).2 (.inr ⟨_, _, _, rfl, rfl, by decide, rfl⟩)
  cases Store.directory.inj hstore
  cases Store.directory.inj hstore'
  cases Store.directory.inj hdeep
  cases Option.some.inj hrun
  cases Option.some.inj hrun'
  cases Option.some.inj hrun''
  exact ⟨⟨hload, (hgone "a").1 (by decide), ((hkept "a").2 (by decide) _).2 hload⟩,
    hstored "/tmp/runs" (by decide), htop, (hnone "a").1 (by decide)⟩

/-- A save fails, and the run that was stored under the name is not found any more. -/
theorem failed_save_loses_run :
    let store : Store := .directory ⟨"runs"⟩
    let m := store.afterAll {} [.save (Directory.emptyRun "a")]
    let r : Run := ⟨"a", { seconds := 0 }, [⟨.things, "no/dir", "x"⟩]⟩
    store.load m (some "a") = .ok (Directory.emptyRun "a") ∧
      (store.save m (some r)).2 = .error (.writeLump "runs/a/no/dir.txt") ∧
      store.load (store.save m (some r)).1 (some "a") = .error (.unknown "a") := by
  have hfits : (⟨"runs"⟩ : Directory).Fits [] "a" := ⟨by decide, by decide, by decide⟩
  have hvacant : Directory.Vacant ({} : Medium).files ((⟨"runs"⟩ : Directory).place "a") :=
    .of_unoccupied (by decide) (by decide) (by decide)
  refine ⟨Directory.load_of_names_eq (by decide) (by decide) hfits hvacant hfits rfl, ?_, ?_⟩
  · rfl
  · rfl

end Store
end DoomPatch
