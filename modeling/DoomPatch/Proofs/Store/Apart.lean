import DoomPatch.Proofs.Store.Calls
import DoomPatch.Proofs.Store.Directory

/-!
# Runs whose places are apart

A directory keeps runs by their places, not by their names: two names can lead to one place, and a place can lie inside
another.  Among names whose places are apart it answers as a map does, and no two names that are not apart can be relied
upon.

* `recalled` — what a map from names to runs would answer after calls.
* `Directory.Holds` — what stands at the place of a name after calls.
* `erased_by_save` — a save erases every run below its place.
* `load_afterAll_apart` — when a directory answers as a map does.
-/

namespace DoomPatch

/-- What a map from names to runs answers after calls. -/
def recalled (id : String) (calls : List StoreCall) : Except StoreError Run :=
  match latest? id calls with
  | some (r, _) => .ok r.utc
  | none => .error (.unknown id)

namespace Directory

variable {d : Directory} {t : FileTree} {r : Run} {id : String} {m : Medium} {last : Option (Run × Nat)}

/-- There is a way to the place of a name; at the place stands what was last saved, or nothing. -/
structure Holds (d : Directory) (home : List String) (id : String) (m : Medium) (last : Option (Run × Nat)) : Prop where
  home_eq : m.files.home = home
  isOpen : Open m.files (d.place id)
  bare : last = none → Bare m.files (d.place id)
  stores : ∀ r age, last = some (r, age) → Stores m.files (d.place id) r

variable {home : List String}

theorem Holds.of_vacant (hvacant : Vacant m.files (d.place id)) : d.Holds m.files.home id m none :=
  ⟨rfl, hvacant.toOpen, fun _ => hvacant.bare, nofun⟩

/-- A place where a run was saved can be reached again. -/
theorem isOpen_save {b : Buffer} (hb : r.lumps = b.lumps) (hfits : d.Fits t.home r.id) (hopen : Open t (d.place r.id))
    {answer : String} (hsave : (d.save t r).2 = .ok answer) : Open (d.save t r).1 (d.place r.id) := by
  refine ⟨?_, (stores_save hb hsave).leads.clear⟩
  exact (confined_save hb d t).keeps_directory (Path.not_above_base _ hfits.named) hopen.base

/-- A run is saved at its own place. -/
theorem Holds.save (hm : d.Holds home r.id m last) (hfits : d.Fits home r.id) (hid : r.id ≠ "") (hr : r.Recordable) :
    ((Store.directory d).save m (some r)).2 = .ok (d.place r.id).text ∧
      d.Holds home r.id ((Store.directory d).after m (.save r)) (some (r, 0)) := by
  obtain ⟨b, hb⟩ := hr.lumps
  obtain ⟨rfl, hopen, -, -⟩ := hm
  have hsave := save_of_fits hb hfits hopen
  unfold Store.after
  dsimp only
  rw [Store.save_directory d m hid]
  refine ⟨hsave, (confined_save hb d m.files).home, isOpen_save hb hfits hopen hsave, nofun, fun r' age heq => ?_⟩
  cases heq
  exact stores_save hb hsave

theorem save_of_here (hplace : d.place r.id = .here) (t : FileTree) : (d.save t r).1 = t := by
  have hclear : t.clear (d.place r.id) = .refused := if_pos hplace
  unfold Directory.save
  dsimp only
  rw [hclear]

/-- A save apart from a place leaves what stands there. -/
theorem Holds.save_apart (hm : d.Holds home id m last) (hid : r.id ≠ "") (hr : r.Recordable)
    (hplace : d.place r.id = .here ∨ (d.place r.id).Apart home (d.place id)) :
    d.Holds home id ((Store.directory d).after m (.save r)) last := by
  obtain ⟨b, hb⟩ := hr.lumps
  unfold Store.after
  dsimp only
  rw [Store.save_directory d m hid]
  rcases hplace with hhere | hapart
  · rw [save_of_here hhere]
    exact hm
  · obtain ⟨rfl, hopen, hbare, hstores⟩ := hm
    have hconfined := confined_save hb d m.files
    refine ⟨hconfined.home, ⟨?_, hconfined.clear hapart hopen.clear⟩, fun hnone name hname => ?_, fun r' age heq => ?_⟩
    · exact hconfined.keeps_directory (fun habove => hapart.1 (habove.trans (Path.base_above _ _))) hopen.base
    · rw [hconfined.at?_child hapart]
      exact hbare hnone name hname
    · exact (hstores r' age heq).confined hconfined hapart

theorem Holds.afterAll {calls : List StoreCall} (hfits : d.Fits m.files.home id)
    (hvacant : Vacant m.files (d.place id)) (hcalls : ∀ r, .save r ∈ calls → r.id ≠ "" ∧ r.Recordable)
    (hothers : ∀ r, .save r ∈ calls → r.id ≠ id →
      d.place r.id = .here ∨ (d.place r.id).Apart m.files.home (d.place id)) :
    d.Holds m.files.home id ((Store.directory d).afterAll m calls) (latest? id calls) := by
  refine Store.afterAll_keeps (fun c hc m' last hm => ?_) (.of_vacant hvacant)
  cases c with
  | save r =>
      obtain ⟨hname, hr⟩ := hcalls r hc
      rw [StoreCall.recall_save]
      by_cases hid : r.id = id
      · subst hid
        rw [if_pos rfl]
        exact (hm.save hfits hname hr).2
      · rw [if_neg hid]
        exact hm.save_apart hname hr (hothers r hc hid)
  | load id => exact hm
  | wait time =>
      refine ⟨hm.home_eq, hm.isOpen, fun hnone => hm.bare (Option.map_eq_none_iff.1 hnone), fun r age heq => ?_⟩
      obtain ⟨⟨r', age'⟩, hlast, hpair⟩ := Option.map_eq_some_iff.1 heq
      cases hpair
      exact hm.stores r age' hlast

theorem Holds.load {calls : List StoreCall} (hm : d.Holds home id m (latest? id calls)) (hfits : d.Fits home id)
    (hcalls : ∀ r, .save r ∈ calls → r.Recordable) : d.load m.files id = recalled id calls := by
  unfold recalled
  cases hlatest : latest? id calls with
  | none =>
      rw [hlatest] at hm
      exact load_of_vacant hfits ⟨hm.isOpen, hm.bare rfl⟩
  | some kept =>
      obtain ⟨r, age⟩ := kept
      rw [hlatest] at hm
      exact load_of_stores (hcalls r (mem_of_latest? hlatest).1) (hm.stores r age rfl)

/-! ## Names that are not apart -/

/-- A save erases every run below its place. -/
theorem erased_by_save {answer : String} (hsave : (d.save t r).2 = .ok answer)
    (habove : (d.place r.id).Above t.home (d.place id))
    (hne : (d.place r.id).names t.home ≠ (d.place id).names t.home) (r' : Run) : d.load (d.save t r).1 id ≠ .ok r' := by
  obtain ⟨t₁, t₂, hclear, -, hwritten, hwrite⟩ := save_eq_ok hsave
  have hhome : t₂.home = t.home := by
    have hsame := home_writeLumps (d.place r.id) (t₁.make (d.place r.id)).1 r.lumps
    rw [hwritten] at hsame
    exact hsame.trans ((FileTree.home_makeEach _ t₁).trans (FileTree.gone_clear hclear).1)
  intro hload
  obtain ⟨text, -, -, hread, -⟩ := load_eq_ok_iff.1 hload
  have hentry := (FileTree.read_child_eq_ok_iff.1 hread).2
  -- The only manifest that the save writes is the one at its place.
  rw [manifestFile_eq] at hwrite
  rw [FileTree.at?_write? hwrite (by simpa [hhome] using hne.symm)] at hentry
  have hnone := no_manifest_of_gone hclear r.lumps habove text
  rw [hwritten] at hnone
  exact hnone hentry

/-- A run without lumps. -/
def emptyRun (id : String) : Run := ⟨id, { seconds := 0 }, []⟩

theorem recordable_emptyRun (id : String) : (emptyRun id).Recordable := by
  have hcreated : ({ seconds := 0 } : Stamp).Recordable := ⟨by decide, by decide, by decide⟩
  exact ⟨hcreated, {}, rfl⟩

theorem holds_emptyRun (hid : id ≠ "") (hfits : d.Fits m.files.home id) (hvacant : Vacant m.files (d.place id)) :
    d.Holds m.files.home id ((Store.directory d).after m (.save (emptyRun id))) (some (emptyRun id, 0)) :=
  (Holds.save (.of_vacant hvacant) hfits hid (recordable_emptyRun id)).2

/-- What stands at a place stands there under each of its names. -/
theorem Stores.of_names_eq {dir dir' : Path} (hstores : Stores t dir r) (hdir : dir.names t.home = dir'.names t.home)
    {b : Buffer} (hb : r.lumps = b.lumps) (hnameable : ∀ name ∈ fileNames, (dir'.child name).Nameable) :
    Stores t dir' r := by
  have hread : ∀ {name text}, name ∈ fileNames → t.read (dir.child name) = .ok text →
      t.read (dir'.child name) = .ok text := by
    intro name text hname hread
    have hentry := (FileTree.read_child_eq_ok_iff.1 hread).2
    rw [FileTree.at?, Path.names_child, hdir, ← Path.names_child] at hentry
    exact FileTree.read_child_eq_ok_iff.2 ⟨(hnameable name hname).passable, hentry⟩
  exact ⟨hread manifest_mem_fileNames hstores.manifest,
    fun l hl => hread ((fileNames_of_lumps hb).1 l hl) (hstores.lumps l hl)⟩

/-- A run is found under any name of its place. -/
theorem load_of_names_eq {id' : String} (hid : id ≠ "") (hid' : id' ≠ "") (hfits : d.Fits m.files.home id)
    (hvacant : Vacant m.files (d.place id)) (hfits' : d.Fits m.files.home id')
    (hplace : (d.place id).names m.files.home = (d.place id').names m.files.home) :
    (Store.directory d).load ((Store.directory d).afterAll m [.save (emptyRun id)]) (some id') =
      .ok (emptyRun id).utc := by
  obtain ⟨hhome, -, -, hstores⟩ := holds_emptyRun hid hfits hvacant
  obtain ⟨b, hb⟩ := (recordable_emptyRun id).lumps
  have hstores' := (hstores _ _ rfl).of_names_eq (by rw [hhome]; exact hplace) hb hfits'.nameable
  rw [Store.load_directory d _ hid']
  exact load_of_stores (recordable_emptyRun id) hstores'

/-- A run is lost when one is saved further up. -/
theorem load_ne_ok_of_above {upper lower : String} (hupper : upper ≠ "") (hlower : lower ≠ "")
    (hfits : d.Fits m.files.home upper) (hfits' : d.Fits m.files.home lower)
    (hvacant' : Vacant m.files (d.place lower)) (habove : (d.place upper).Above m.files.home (d.place lower))
    (hne : (d.place upper).names m.files.home ≠ (d.place lower).names m.files.home) (r : Run) :
    (Store.directory d).load
      ((Store.directory d).afterAll m [.save (emptyRun lower), .save (emptyRun upper)]) (some lower) ≠ .ok r := by
  let m' := (Store.directory d).after m (.save (emptyRun lower))
  obtain ⟨hhome, -, -, hstores⟩ := holds_emptyRun hlower hfits' hvacant'
  obtain ⟨b, hb⟩ := (recordable_emptyRun upper).lumps
  -- The run below is there, so directories lead to the upper place.
  have hway : ∀ q : Path, q.Above m.files.home (d.place upper) → m'.files.at? q = some .directory := by
    intro q hq
    have hmanifest := (FileTree.read_child_eq_ok_iff.1 (hstores _ _ rfl).manifest).2
    exact FileTree.at?_of_above_child hmanifest (hhome ▸ hq.trans habove)
  have hopen : Open m'.files (d.place upper) := by
    refine ⟨hway _ (Path.base_above _ _), fun q hq text => ?_⟩
    simp [hway q (Path.above_of_mem_trail hq)]
  have hsave : (d.save m'.files (emptyRun upper)).2 = .ok (d.place upper).text :=
    save_of_fits hb (hhome ▸ hfits) hopen
  rw [Store.load_directory d _ hlower]
  change d.load ((Store.directory d).save m' (some (emptyRun upper))).1.files lower ≠ .ok r
  rw [Store.save_directory d m' hupper]
  exact erased_by_save hsave (hhome ▸ habove) (hhome ▸ hne) r

/-- Of two names of which one leads to or below the place of the other, one is answered as by no map. -/
theorem exists_load_ne_recalled {upper lower : String} (hupper : upper ≠ "") (hlower : lower ≠ "")
    (hne : upper ≠ lower) (hfits : d.Fits m.files.home upper) (hvacant : Vacant m.files (d.place upper))
    (hfits' : d.Fits m.files.home lower) (hvacant' : Vacant m.files (d.place lower))
    (habove : (d.place upper).Above m.files.home (d.place lower)) :
    ∃ calls, (∀ r, .save r ∈ calls → (r.id = upper ∨ r.id = lower) ∧ r.Recordable) ∧
      (Store.directory d).load ((Store.directory d).afterAll m calls) (some lower) ≠ recalled lower calls := by
  by_cases hnames : (d.place upper).names m.files.home = (d.place lower).names m.files.home
  · refine ⟨[.save (emptyRun upper)], fun r hr => ?_, ?_⟩
    · cases List.mem_singleton.1 hr
      exact ⟨.inl rfl, recordable_emptyRun upper⟩
    · have hlatest : latest? lower [.save (emptyRun upper)] = none := if_neg hne
      rw [load_of_names_eq hupper hlower hfits hvacant hfits' hnames, recalled, hlatest]
      exact nofun
  · refine ⟨[.save (emptyRun lower), .save (emptyRun upper)], fun r hr => ?_, ?_⟩
    · rcases List.mem_cons.1 hr with heq | hr
      · cases heq
        exact ⟨.inr rfl, recordable_emptyRun lower⟩
      · cases List.mem_singleton.1 hr
        exact ⟨.inl rfl, recordable_emptyRun upper⟩
    · have hlatest : latest? lower [.save (emptyRun lower), .save (emptyRun upper)] = some (emptyRun lower, 0) := by
        simp [latest?, emptyRun, hne]
      rw [recalled, hlatest]
      exact load_ne_ok_of_above hupper hlower hfits hfits' hvacant' habove hnames _

/-- Wherever the working directory is and whatever files there are: let a name fit, and its place be vacant.  Then after
any calls, the run of the name is the one last saved under exactly this name, and there is none if none was saved,
provided that every other name used leads to the working directory itself, where nothing can be saved, or to a place
apart; and every save under the name succeeds.  Where the places of two such names are not apart, some calls with these
names are answered otherwise. -/
theorem load_afterAll_apart (d : Directory) (m : Medium) (hid : id ≠ "") (hfits : d.Fits m.files.home id)
    (hvacant : Vacant m.files (d.place id)) :
    (∀ calls, (∀ r, .save r ∈ calls → r.id ≠ "" ∧ r.Recordable) →
      (∀ r, .save r ∈ calls → r.id ≠ id →
        d.place r.id = .here ∨ (d.place r.id).Apart m.files.home (d.place id)) →
      (Store.directory d).load ((Store.directory d).afterAll m calls) (some id) = recalled id calls ∧
        ∀ r, r.id = id → r.Recordable →
          ((Store.directory d).save ((Store.directory d).afterAll m calls) (some r)).2 = .ok (d.place id).text) ∧
    ∀ id', id' ≠ "" → id' ≠ id → d.Fits m.files.home id' → Vacant m.files (d.place id') →
      ¬(d.place id').Apart m.files.home (d.place id) →
      ∃ calls, (∀ r, .save r ∈ calls → (r.id = id ∨ r.id = id') ∧ r.Recordable) ∧ ∃ name ∈ [id, id'],
        (Store.directory d).load ((Store.directory d).afterAll m calls) (some name) ≠ recalled name calls := by
  refine ⟨fun calls hcalls hothers => ?_, fun id' hid' hne hfits' hvacant' hapart => ?_⟩
  · have hholds := Holds.afterAll hfits hvacant hcalls hothers
    refine ⟨?_, fun r hr hrecordable => ?_⟩
    · rw [Store.load_directory d _ hid]
      exact hholds.load hfits fun r hr => (hcalls r hr).2
    · subst hr
      exact (hholds.save hfits hid hrecordable).1
  · by_cases habove : (d.place id').Above m.files.home (d.place id)
    · obtain ⟨calls, hcalls, hload⟩ := exists_load_ne_recalled hid' hid hne hfits' hvacant' hfits hvacant habove
      exact ⟨calls, fun r hr => ⟨(hcalls r hr).1.symm, (hcalls r hr).2⟩, id, by simp, hload⟩
    · have hbelow : (d.place id).Above m.files.home (d.place id') :=
        Decidable.byContradiction fun h => hapart ⟨habove, h⟩
      obtain ⟨calls, hcalls, hload⟩ := exists_load_ne_recalled hid hid' hne.symm hfits hvacant hfits' hvacant' hbelow
      exact ⟨calls, hcalls, id', by simp, hload⟩

/-- Where nothing stands at a place, there is no file of a run. -/
theorem Vacant.of_unoccupied {dir : Path} (hentry : t.at? dir = none)
    (hbase : t.at? dir.base = some .directory)
    (hway : ∀ q ∈ dir.trail, t.at? q = none ∨ t.at? q = some .directory) : Vacant t dir := by
  refine ⟨⟨hbase, fun q hq text => ?_⟩, fun name _ => ?_⟩
  · rcases hway q hq with hnone | hdirectory
    · simp [hnone]
    · simp [hdirectory]
  · refine Decidable.byContradiction fun hchild => ?_
    exact FileTree.at?_ne_none_of_above hchild (Path.above_child _ dir name) hentry

set_option maxRecDepth 4000 in
/-- Two names inside one directory, one of them saved twice, and a name that leads to the working directory; and another
way to the place of the first name, through the directory above. -/
theorem load_afterAll_apart_siblings :
    let d : Directory := ⟨"runs"⟩
    let m : Medium := { files := (FileTree.make { home := ["work"] } ⟨.top, ["work"]⟩).1 }
    let first : Run := ⟨"a/b", { seconds := 0 }, (({} : Buffer).write .things "1").write .weapons "2" |>.lumps⟩
    let second : Run := ⟨"a/b", { seconds := 59, nanos := 5, offset := 60 }, (({} : Buffer).write .weapons "3").lumps⟩
    let calls : List StoreCall := [.save first, .save (emptyRun "a/c"), .save second, .save (emptyRun ".."), .wait 5]
    let other := "../../work/runs/a/b"
    ("a/b" ≠ "" ∧ d.Fits m.files.home "a/b" ∧ Vacant m.files (d.place "a/b") ∧
      (∀ r, .save r ∈ calls → r.id ≠ "" ∧ r.Recordable) ∧
      ∀ r, .save r ∈ calls → r.id ≠ "a/b" →
        d.place r.id = .here ∨ (d.place r.id).Apart m.files.home (d.place "a/b")) ∧
    (Store.directory d).load ((Store.directory d).afterAll m calls) (some "a/b") = .ok second.utc ∧
    (other ≠ "" ∧ other ≠ "a/b" ∧ d.Fits m.files.home other ∧ Vacant m.files (d.place other) ∧
      ¬(d.place other).Apart m.files.home (d.place "a/b")) ∧
    ∃ calls, (∀ r, .save r ∈ calls → (r.id = "a/b" ∨ r.id = other) ∧ r.Recordable) ∧ ∃ name ∈ ["a/b", other],
      (Store.directory d).load ((Store.directory d).afterAll m calls) (some name) ≠ recalled name calls := by
  intro d m first second calls other
  have hfits : d.Fits m.files.home "a/b" := ⟨by decide, by decide, by decide⟩
  have hfits' : d.Fits m.files.home other := ⟨by decide, by decide, by decide⟩
  have hvacant : Vacant m.files (d.place "a/b") := .of_unoccupied (by decide) (by decide) (by decide)
  have hvacant' : Vacant m.files (d.place other) := .of_unoccupied (by decide) (by decide) (by decide)
  have hcases : ∀ r, .save r ∈ calls → r = first ∨ r = emptyRun "a/c" ∨ r = second ∨ r = emptyRun ".." := by
    intro r hr
    simpa [calls] using hr
  have hcalls : ∀ r, .save r ∈ calls → r.id ≠ "" ∧ r.Recordable := by
    intro r hr
    rcases hcases r hr with rfl | rfl | rfl | rfl
    · exact ⟨by decide, ⟨by decide, by decide, by decide⟩, (({} : Buffer).write .things "1").write .weapons "2", rfl⟩
    · exact ⟨by decide, recordable_emptyRun _⟩
    · exact ⟨by decide, ⟨by decide, by decide, by decide⟩, ({} : Buffer).write .weapons "3", rfl⟩
    · exact ⟨by decide, recordable_emptyRun _⟩
  have hothers : ∀ r, .save r ∈ calls → r.id ≠ "a/b" →
      d.place r.id = .here ∨ (d.place r.id).Apart m.files.home (d.place "a/b") := by
    intro r hr hne
    rcases hcases r hr with rfl | rfl | rfl | rfl
    · exact absurd rfl hne
    · exact .inr (by decide)
    · exact absurd rfl hne
    · exact .inl (by decide)
  have hlaw := load_afterAll_apart d m (by decide : "a/b" ≠ "") hfits hvacant
  exact ⟨⟨by decide, hfits, hvacant, hcalls, hothers⟩, (hlaw.1 calls hcalls hothers).1,
    ⟨by decide, by decide, hfits', hvacant', by decide⟩,
    hlaw.2 other (by decide) (by decide) hfits' hvacant' (by decide)⟩

set_option maxRecDepth 4000 in
/-- A run is found under a name that it was not saved under, and lost when a different name is saved. -/
theorem names_share_places :
    let store : Store := .directory ⟨"runs"⟩
    store.load (store.afterAll {} [.save (emptyRun "a")]) (some "./a") = .ok (emptyRun "a") ∧
      store.load (store.afterAll {} [.save (emptyRun "a/b"), .save (emptyRun "a")]) (some "a/b") ≠
        .ok (emptyRun "a/b") := by
  intro store
  let d : Directory := ⟨"runs"⟩
  have hfits : ∀ id ∈ ["a", "./a", "a/b"], d.Fits [] id := by
    intro id hid
    refine ⟨?_, ?_, ?_⟩ <;> revert id <;> decide
  have hvacant : ∀ id ∈ ["a", "a/b"], Vacant ({} : Medium).files (d.place id) := by
    intro id hid
    refine .of_unoccupied ?_ ?_ ?_ <;> revert id <;> decide
  exact ⟨load_of_names_eq (by decide) (by decide) (hfits "a" (by decide)) (hvacant "a" (by decide))
      (hfits "./a" (by decide)) (by decide),
    load_ne_ok_of_above (by decide) (by decide) (hfits "a" (by decide)) (hfits "a/b" (by decide))
      (hvacant "a/b" (by decide)) (by decide) (by decide) _⟩

end Directory
end DoomPatch
