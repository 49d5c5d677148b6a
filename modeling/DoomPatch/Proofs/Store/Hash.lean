import DoomPatch.Proofs.Store.Calls

/-!
# A hash server as a map of runs

Whatever is saved, loaded and waited for, the run of a name is the one last saved under exactly this name, for as long
as runs are kept.

* `fieldsOf` — look-ups in the named texts of a run; `load_of_fetch?` — the run read from them.
* `execAll_commands` — the commands of a save leave the texts of the run under its key and nothing else, for the whole
  time that runs are kept; `save_cases` — so does a save, or the server takes nothing.
* `Holds` — what the server has under the key of a name, told by the last save; every call keeps it.
* `load_afterAll` — what is loaded after any calls.
-/

namespace DoomPatch
namespace HashStore

variable {r : Run} {b : Buffer}

/-! ### The named texts of a run -/

/-- The named texts of a run as a list. -/
def fieldList (r : Run) : List (String × String) :=
  ("created_at", r.created.utc.text) :: r.lumps.flatMap fun l =>
    [(lumpField l.name, l.text), (digestField l.name, Digest.text (Digest.ofText l.text))]

theorem lumpField_inj {a b : String} (heq : lumpField a = lumpField b) : a = b := by
  unfold lumpField at heq
  simpa using heq

theorem digestField_inj {a b : String} (heq : digestField a = digestField b) : a = b := by
  unfold digestField at heq
  simpa using heq

theorem lumpField_ne_digestField (a b : String) : lumpField a ≠ digestField b := by
  intro heq
  have hchars := congrArg (fun s => s.toList.head?) heq
  simp [lumpField, digestField] at hchars

theorem created_ne_lumpField (a : String) : "created_at" ≠ lumpField a := by
  intro heq
  have hchars := congrArg (fun s => s.toList.head?) heq
  simp [lumpField] at hchars

theorem nodup_lumpFields {names : List String} (hnames : names.Nodup) :
    (names.flatMap fun n => [lumpField n, digestField n]).Nodup := by
  induction names with
  | nil => exact .nil
  | cons n names ih =>
      rw [List.nodup_cons] at hnames
      have hmem : ∀ key, key ∈ (names.flatMap fun n => [lumpField n, digestField n]) →
          ∃ n' ∈ names, key = lumpField n' ∨ key = digestField n' := by
        intro key hkey
        obtain ⟨n', hn', hkey⟩ := List.mem_flatMap.1 hkey
        exact ⟨n', hn', by simpa using hkey⟩
      rw [List.flatMap_cons, List.cons_append, List.cons_append, List.nil_append, List.nodup_cons, List.nodup_cons,
        List.mem_cons]
      refine ⟨?_, ?_, ih hnames.2⟩
      · rintro (hkey | hkey)
        · exact lumpField_ne_digestField _ _ hkey
        · obtain ⟨n', hn', heq | heq⟩ := hmem _ hkey
          · exact hnames.1 (lumpField_inj heq ▸ hn')
          · exact lumpField_ne_digestField _ _ heq
      · intro hkey
        obtain ⟨n', hn', heq | heq⟩ := hmem _ hkey
        · exact lumpField_ne_digestField _ _ heq.symm
        · exact hnames.1 (digestField_inj heq ▸ hn')

theorem map_fst_fieldList (r : Run) :
    (fieldList r).map Prod.fst =
      "created_at" :: (r.lumps.map Lump.name).flatMap fun n => [lumpField n, digestField n] := by
  simp [fieldList, List.map_flatMap, List.flatMap_map]

/-- No two texts of a run have the same name. -/
theorem nodup_fieldList (hb : r.lumps = b.lumps) : ((fieldList r).map Prod.fst).Nodup := by
  rw [map_fst_fieldList, List.nodup_cons]
  refine ⟨fun hmem => ?_, nodup_lumpFields (hb ▸ b.nodup_names)⟩
  obtain ⟨n, -, hkey⟩ := List.mem_flatMap.1 hmem
  have hchars : "created_at".toList.head? = (lumpField n).toList.head? ∨
      "created_at".toList.head? = (digestField n).toList.head? := by
    rcases List.mem_cons.1 hkey with heq | hkey
    · exact .inl (by rw [heq])
    · exact .inr (by rw [List.mem_singleton.1 hkey])
  simp [lumpField, digestField] at hchars

theorem get?_created (hb : r.lumps = b.lumps) : (fieldsOf r).get? "created_at" = some r.created.utc.text :=
  SortedMap.get?_ofList_of_mem (nodup_fieldList hb) List.mem_cons_self

theorem get?_digestField (hb : r.lumps = b.lumps) {k : LumpKind} (hk : k ∈ LumpKind.all) {text : String}
    (hfind : b.find? k = some text) :
    (fieldsOf r).get? (digestField k.name) = some (Digest.text (Digest.ofText text)) := by
  have hlump : (⟨k, k.name, text⟩ : Lump) ∈ r.lumps := hb ▸ Buffer.mem_lumps_iff.2 ⟨hk, rfl, hfind⟩
  refine SortedMap.get?_ofList_of_mem (nodup_fieldList hb) ?_
  exact List.mem_cons_of_mem _ (List.mem_flatMap.2 ⟨_, hlump, by simp⟩)

/-- The text of a lump is there exactly if the lump was listed. -/
theorem get?_lumpField (hb : r.lumps = b.lumps) {k : LumpKind} (hk : k ∈ LumpKind.all) :
    (fieldsOf r).get? (lumpField k.name) = b.find? k := by
  cases hfind : b.find? k with
  | some text =>
      have hlump : (⟨k, k.name, text⟩ : Lump) ∈ r.lumps := hb ▸ Buffer.mem_lumps_iff.2 ⟨hk, rfl, hfind⟩
      refine SortedMap.get?_ofList_of_mem (nodup_fieldList hb) ?_
      exact List.mem_cons_of_mem _ (List.mem_flatMap.2 ⟨_, hlump, by simp⟩)
  | none =>
      refine SortedMap.get?_ofList_of_not_mem fun hmem => ?_
      rw [← fieldList, map_fst_fieldList] at hmem
      rcases List.mem_cons.1 hmem with heq | hmem
      · exact created_ne_lumpField _ heq.symm
      · obtain ⟨n, hn, hkey⟩ := List.mem_flatMap.1 hmem
        obtain ⟨l, hl, rfl⟩ := List.mem_map.1 hn
        obtain ⟨hkind, hname, htext⟩ := Buffer.mem_lumps_iff.1 (hb ▸ hl)
        rcases List.mem_cons.1 hkey with heq | hkey
        · have hsame := LumpKind.name_inj hk hkind ((lumpField_inj heq).trans hname)
          rw [← hsame, hfind] at htext
          cases htext
        · exact lumpField_ne_digestField _ _ (List.mem_singleton.1 hkey)

theorem loadLumps_fieldsOf (hb : r.lumps = b.lumps) (id : String) {kinds : List LumpKind}
    (hkinds : ∀ k ∈ kinds, k ∈ LumpKind.all) :
    loadLumps id (fieldsOf r) kinds =
      .ok (kinds.filterMap fun k => (b.find? k).map fun t => (⟨k, k.name, t⟩ : Lump)) := by
  induction kinds with
  | nil => rfl
  | cons k kinds ih =>
      have hk := hkinds k List.mem_cons_self
      have hrest := ih fun k' hk' => hkinds k' (List.mem_cons_of_mem _ hk')
      unfold loadLumps
      rw [get?_lumpField hb hk, List.filterMap_cons]
      cases hfind : b.find? k with
      | none => exact hrest
      | some text =>
          dsimp only
          rw [get?_digestField hb hk hfind, Option.getD_some, StoreError.check_text]
          dsimp only
          rw [hrest]
          rfl

theorem load_eq_ok_iff {h : HashStore} {s : HashServer} {id time : String} {values : SortedMap String String}
    (hreach : h.reachable = true) (hfetch : s.fetch? (h.key id) = some values)
    (htime : values.get? "created_at" = some time) {r' : Run} :
    h.load s id = .ok r' ↔ ∃ created lumps, Stamp.read? time = some created ∧
      loadLumps id values LumpKind.all = .ok lumps ∧ r' = ⟨id, created, lumps⟩ := by
  unfold load
  rw [if_pos hreach, hfetch]
  dsimp only
  rw [SortedMap.isEmpty_eq_false htime, if_neg (by decide), htime, Option.getD_some]
  cases hstamp : Stamp.read? time with
  | none => simp
  | some created =>
      cases hlumps : loadLumps id values LumpKind.all with
      | error e => simp [Except.map]
      | ok lumps => simp [Except.map, eq_comm]

/-- A run is read from its named texts, in universal time. -/
theorem load_of_fetch? {h : HashStore} {s : HashServer} {id : String} (hreach : h.reachable = true)
    (hr : r.Recordable) (hid : r.id = id) (hfetch : s.fetch? (h.key id) = some (fieldsOf r)) :
    h.load s id = .ok r.utc := by
  obtain ⟨b, hb⟩ := hr.lumps
  subst hid
  refine (load_eq_ok_iff hreach hfetch (get?_created hb)).2
    ⟨_, _, Stamp.read?_text hr.created, loadLumps_fieldsOf hb r.id fun _ hk => hk, ?_⟩
  unfold Run.utc
  rw [hb]
  rfl

/-! ### What the server holds -/

theorem key_inj {h : HashStore} {a b : String} (heq : h.key a = h.key b) : a = b := by
  unfold key at heq
  simpa using heq

/-- The time for which a run is kept. -/
def lifetime (h : HashStore) : Int := h.seconds * Duration.second

theorem seconds_pos (h : HashStore) : 0 < h.seconds := by
  have hsecond : Duration.second = 1000000000 := rfl
  have htime : 0 < (if h.keep = 0 then Duration.week else (h.keep : Int)) := by
    split
    · decide
    · omega
  unfold seconds
  dsimp only
  generalize (if h.keep = 0 then Duration.week else (h.keep : Int)) = ns at htime ⊢
  split
  · decide
  · next hlong =>
    rw [hsecond] at hlong ⊢
    rw [Int.tdiv_eq_ediv_of_nonneg (by omega)]
    omega

theorem lifetime_pos (h : HashStore) : 0 < h.lifetime := Int.mul_pos h.seconds_pos (by decide)

/-- The time for which a run is kept, where the setting is a whole number of seconds. -/
theorem lifetime_of_whole {h : HashStore} {ttl : Nat} (hkeep : h.keep = ttl * 1000000000) :
    h.lifetime = (if ttl = 0 then 604800 else (ttl : Int)) * 1000000000 := by
  have hsecond : Duration.second = 1000000000 := rfl
  unfold lifetime seconds
  rw [hkeep]
  by_cases hzero : ttl = 0
  · rw [hzero]
    decide
  · have hne : ttl * 1000000000 ≠ 0 := by omega
    rw [if_neg hzero, if_neg hne, hsecond]
    dsimp only
    rw [if_neg (by omega), Int.natCast_mul]
    exact congrArg (· * 1000000000) (Int.mul_tdiv_cancel _ (by decide))

/-! ### Commands -/

theorem exec_delete (s : HashServer) (key : String) :
    s.exec (.delete key) = ({ s with items := s.items.erase key }, true) := rfl

/-- A key that is not there gets exactly the texts that it is given, for good. -/
theorem exec_set {s : HashServer} {key : String} (hvacant : s.items.get? key = none)
    (values : SortedMap String String) :
    s.exec (.set key values) = ({ s with items := s.items.insert key ⟨.fields values, none⟩ }, true) := by
  have hfields : s.fields key = ∅ := by
    unfold HashServer.fields
    rw [hvacant]
  have hvalues : values.entries.foldl (fun m e => m.insert e.1 e.2) (s.fields key) = values := by
    rw [hfields]
    exact SortedMap.ofList_entries values
  have hput : s.putAll key values.entries = { s with items := s.items.insert key ⟨.fields values, none⟩ } := by
    unfold HashServer.putAll
    dsimp only
    rw [hvalues, hvacant]
    rfl
  unfold HashServer.exec
  dsimp only
  rw [hvacant]
  dsimp only
  rw [hput]

theorem exec_expire {s : HashServer} {key : String} {item : HashItem} (hitem : s.items.get? key = some item)
    {seconds : Int} (hseconds : 0 < seconds) :
    s.exec (.expire key seconds) =
      ({ s with items := s.items.insert key { item with left := some (seconds * Duration.second) } }, true) := by
  unfold HashServer.exec
  dsimp only
  rw [hitem]
  dsimp only
  rw [if_pos hseconds]

/-- Whatever the key of a run had before, the commands of a save leave the texts of the run, and its whole time. -/
theorem execAll_commands (h : HashStore) (s : HashServer) (r : Run) :
    s.execAll (h.commands r) =
      ({ s with items := s.items.insert (h.key r.id) ⟨.fields (fieldsOf r), some h.lifetime⟩ }, true) := by
  have hreplace : ∀ item item' : HashItem,
      ((s.items.erase (h.key r.id)).insert (h.key r.id) item).insert (h.key r.id) item' =
        s.items.insert (h.key r.id) item' := by
    intro item item'
    refine SortedMap.ext_get? fun k => ?_
    by_cases hk : k = h.key r.id
    · subst hk
      rw [SortedMap.get?_insert_self, SortedMap.get?_insert_self]
    · rw [SortedMap.get?_insert_of_ne _ hk, SortedMap.get?_insert_of_ne _ hk, SortedMap.get?_erase_of_ne _ hk,
        SortedMap.get?_insert_of_ne _ hk]
  unfold commands HashServer.execAll HashServer.execAll HashServer.execAll HashServer.execAll
  rw [exec_delete]
  dsimp only
  rw [exec_set (SortedMap.get?_erase_self _ _)]
  dsimp only
  rw [exec_expire (SortedMap.get?_insert_self _ _ _) h.seconds_pos]
  dsimp only
  rw [hreplace]
  rfl

/-- A save stores the run, or the server is out of reach or refuses and takes nothing. -/
theorem save_cases (h : HashStore) (s : HashServer) (r : Run) :
    (h.reachable = true ∧ s.refusing = false ∧
      h.save s r = ({ s with items := s.items.insert (h.key r.id) ⟨.fields (fieldsOf r), some h.lifetime⟩ },
        .ok (h.key r.id))) ∨
      h.save s r = (s, .error (.send r.id)) := by
  unfold save HashServer.transact
  rw [execAll_commands]
  cases h.reachable <;> cases s.refusing <;> simp

theorem save_of_answers {h : HashStore} {s : HashServer} (hreach : h.reachable = true) (hanswers : s.refusing = false)
    (r : Run) :
    h.save s r = ({ s with items := s.items.insert (h.key r.id) ⟨.fields (fieldsOf r), some h.lifetime⟩ },
      .ok (h.key r.id)) := by
  unfold save HashServer.transact
  rw [if_pos hreach, execAll_commands, hanswers]
  rfl

/-- A save that is answered has found a server that takes it. -/
theorem answers_of_save {h : HashStore} {s : HashServer} {place : String} (hsave : (h.save s r).2 = .ok place) :
    h.reachable = true ∧ s.refusing = false := by
  rcases h.save_cases s r with ⟨hreach, hanswers, -⟩ | hfail
  · exact ⟨hreach, hanswers⟩
  · rw [hfail] at hsave
    cases hsave

/-! ### Calls -/

/-- The server answers, and under the key of a name it has what was last saved, until its time is up. -/
structure Holds (h : HashStore) (id : String) (m : Medium) (last : Option (Run × Nat)) : Prop where
  answers : m.server.refusing = false
  item : m.server.items.get? (h.key id) = last.bind fun (r, age) =>
    if (age : Int) < h.lifetime then some ⟨.fields (fieldsOf r), some (h.lifetime - age)⟩ else none

/-- A run that was just saved is there for its whole time. -/
theorem holds_save {h : HashStore} {m : Medium} (hreach : h.reachable = true) (hanswers : m.server.refusing = false)
    (hr : r.id ≠ "") :
    h.Holds r.id ((Store.hashes h).after m (.save r)) (some (r, 0)) := by
  unfold Store.after
  dsimp only
  rw [Store.save_hashes h m hr, save_of_answers hreach hanswers]
  refine ⟨hanswers, ?_⟩
  dsimp only
  rw [SortedMap.get?_insert_self, Option.bind_some]
  dsimp only
  rw [if_pos (by exact_mod_cast h.lifetime_pos)]
  simp

/-- A save under a different name leaves what is there. -/
theorem Holds.save_of_ne {h : HashStore} {id : String} {m : Medium} {last : Option (Run × Nat)}
    (hm : h.Holds id m last) (hreach : h.reachable = true) (hr : r.id ≠ "") (hid : r.id ≠ id) :
    h.Holds id ((Store.hashes h).after m (.save r)) last := by
  unfold Store.after
  dsimp only
  rw [Store.save_hashes h m hr, save_of_answers hreach hm.answers]
  refine ⟨hm.answers, ?_⟩
  dsimp only
  rw [SortedMap.get?_insert_of_ne _ fun heq => hid (key_inj heq).symm]
  exact hm.item

theorem Holds.save {h : HashStore} {id : String} {m : Medium} {last : Option (Run × Nat)} (hreach : h.reachable = true)
    (hm : h.Holds id m last) (hr : r.id ≠ "") :
    h.Holds id ((Store.hashes h).after m (.save r)) ((StoreCall.save r).recall id last) := by
  rw [StoreCall.recall_save]
  by_cases hid : r.id = id
  · subst hid
    rw [if_pos rfl]
    exact holds_save hreach hm.answers hr
  · rw [if_neg hid]
    exact hm.save_of_ne hreach hr hid

theorem Holds.wait {h : HashStore} {id : String} {m : Medium} {last : Option (Run × Nat)} (hm : h.Holds id m last)
    (time : Nat) :
    h.Holds id ((Store.hashes h).after m (.wait time)) ((StoreCall.wait time).recall id last) := by
  refine ⟨hm.answers, ?_⟩
  unfold Store.after HashServer.advance
  dsimp only
  rw [SortedMap.get?_filterMap, hm.item, StoreCall.recall_wait]
  cases last with
  | none => rfl
  | some kept =>
      obtain ⟨r, age⟩ := kept
      simp only [Option.bind_some, Option.map_some]
      by_cases hfresh : (age : Int) < h.lifetime
      · rw [if_pos hfresh, Option.bind_some]
        unfold HashItem.after?
        dsimp only
        by_cases hlater : ((age + time : Nat) : Int) < h.lifetime
        · rw [if_pos hlater, if_pos (by omega)]
          congr 3
          omega
        · rw [if_neg hlater, if_neg (by omega)]
      · rw [if_neg hfresh, if_neg (by omega)]
        rfl

theorem Holds.afterAll {h : HashStore} {id : String} {calls : List StoreCall} (hreach : h.reachable = true)
    (hcalls : ∀ r, .save r ∈ calls → r.id ≠ "") :
    h.Holds id ((Store.hashes h).afterAll {} calls) (latest? id calls) := by
  refine Store.afterAll_keeps (fun c hc m last hm => ?_) ⟨rfl, rfl⟩
  cases c with
  | save r => exact hm.save hreach (hcalls r hc)
  | load id => exact hm
  | wait time => exact hm.wait time

theorem Holds.load_of_fresh {h : HashStore} {id : String} {m : Medium} {age : Nat} (hm : h.Holds id m (some (r, age)))
    (hreach : h.reachable = true) (hr : r.Recordable) (hid : r.id = id) (hfresh : (age : Int) < h.lifetime) :
    h.load m.server id = .ok r.utc := by
  have hitem := hm.item
  rw [Option.bind_some] at hitem
  dsimp only at hitem
  rw [if_pos hfresh] at hitem
  refine load_of_fetch? hreach hr hid ?_
  unfold HashServer.fetch?
  rw [hm.answers, hitem]
  rfl

theorem Holds.load_of_stale {h : HashStore} {id : String} {m : Medium} {last : Option (Run × Nat)}
    (hm : h.Holds id m last) (hreach : h.reachable = true)
    (hstale : ∀ r age, last = some (r, age) → ¬ (age : Int) < h.lifetime) :
    h.load m.server id = .error (.unknown id) := by
  have hvacant : m.server.items.get? (h.key id) = none := by
    rw [hm.item]
    cases last with
    | none => rfl
    | some kept => exact if_neg (hstale kept.1 kept.2 rfl)
  have hfetch : m.server.fetch? (h.key id) = some ∅ := by
    unfold HashServer.fetch?
    rw [hm.answers, hvacant]
    rfl
  unfold load
  rw [if_pos hreach, hfetch]
  rfl

theorem Holds.fields_left {h : HashStore} {id : String} {m : Medium} {age : Nat} (hm : h.Holds id m (some (r, age)))
    (hfresh : (age : Int) < h.lifetime) :
    m.server.fields (h.key id) = fieldsOf r ∧ m.server.left (h.key id) = h.lifetime - age := by
  have hitem := hm.item
  rw [Option.bind_some] at hitem
  dsimp only at hitem
  rw [if_pos hfresh] at hitem
  unfold HashServer.fields HashServer.left
  rw [hitem]
  exact ⟨rfl, rfl⟩

/-- After any calls, the run of a name is the one last saved under exactly this name, if it was saved less long ago than
runs are kept; else there is none.  The server has the texts of that run and no others under its key, for as long as is
left of its own time.  Every save is stored. -/
theorem load_afterAll (stem : String) (ttl : Nat) {calls : List StoreCall}
    (hcalls : ∀ r, .save r ∈ calls → r.id ≠ "" ∧ r.Recordable) {id : String} (hid : id ≠ "") :
    let h : HashStore := { stem, keep := ttl * 1000000000 }
    let kept := (if ttl = 0 then 604800 else ttl) * 1000000000
    let m := (Store.hashes h).afterAll {} calls
    (Store.hashes h).load m (some id) =
        (match latest? id calls with
        | some (r, age) => if age < kept then .ok r.utc else .error (.unknown id)
        | none => .error (.unknown id)) ∧
      (∀ r age, latest? id calls = some (r, age) → age < kept →
        m.server.fields (stem ++ "run:" ++ id) = fieldsOf r ∧ m.server.left (stem ++ "run:" ++ id) = kept - age) ∧
      ∀ r, r.id ≠ "" → ((Store.hashes h).save m (some r)).2 = .ok (stem ++ "run:" ++ r.id) := by
  intro h kept m
  have hlifetime : h.lifetime = kept := by
    rw [lifetime_of_whole rfl]
    unfold kept
    split <;> rfl
  have hholds : h.Holds id m (latest? id calls) := Holds.afterAll rfl fun r hr => (hcalls r hr).1
  refine ⟨?_, fun r age hlatest hfresh => ?_, fun r hr => ?_⟩
  · rw [Store.load_hashes h m hid]
    cases hlatest : latest? id calls with
    | none =>
        rw [hlatest] at hholds
        exact hholds.load_of_stale rfl fun r age heq => nomatch heq
    | some last =>
        obtain ⟨r, age⟩ := last
        obtain ⟨hsaved, hname⟩ := mem_of_latest? hlatest
        rw [hlatest] at hholds
        dsimp only
        split
        · exact hholds.load_of_fresh rfl (hcalls r hsaved).2 hname (by omega)
        · refine hholds.load_of_stale rfl fun r' age' heq => ?_
          cases heq
          omega
  · rw [hlatest] at hholds
    obtain ⟨hfields, hleft⟩ := hholds.fields_left (by omega)
    exact ⟨hfields, hleft.trans (by omega)⟩
  · rw [Store.save_hashes h m hr, save_of_answers rfl hholds.answers]
    rfl

/-- A run with two lumps is replaced by one with a single lump a nanosecond before its time is up, and the second run is
still there when the first would have vanished. -/
theorem load_afterAll_replaced :
    let first : Run := ⟨"a", { seconds := 0 }, (({} : Buffer).write .things "1").write .weapons "2" |>.lumps⟩
    let second : Run := ⟨"a", { seconds := 59, nanos := 5, offset := 60 }, (({} : Buffer).write .weapons "3").lumps⟩
    let calls : List StoreCall := [.save first, .wait 59999999999, .save second, .load "b", .wait 59999999999]
    (∀ r, .save r ∈ calls → r.id ≠ "" ∧ r.Recordable) ∧ "a" ≠ "" ∧
      (Store.hashes { stem := "p:", keep := 60 * 1000000000 }).load
          ((Store.hashes { stem := "p:", keep := 60 * 1000000000 }).afterAll {} calls) (some "a") =
        .ok second.utc := by
  intro first second calls
  have hcalls : ∀ r, .save r ∈ calls → r.id ≠ "" ∧ r.Recordable := by
    intro r hr
    have hcases : r = first ∨ r = second := by simpa [calls] using hr
    rcases hcases with rfl | rfl
    · exact ⟨by decide, ⟨by decide, by decide, by decide⟩, (({} : Buffer).write .things "1").write .weapons "2", rfl⟩
    · exact ⟨by decide, ⟨by decide, by decide, by decide⟩, ({} : Buffer).write .weapons "3", rfl⟩
  exact ⟨hcalls, by decide, (load_afterAll "p:" 60 hcalls (by decide : "a" ≠ "")).1⟩

end HashStore
end DoomPatch
