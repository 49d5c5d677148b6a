import DoomPatch.Proofs.Store.Apart
import DoomPatch.Proofs.Store.Hash
import DoomPatch.Service

/-!
# Runs that come back

The service stores the lumps of a conversion under a new name.  Whatever is asked of it afterwards, the run comes back
as it was stored.

* `Store.Keeps` — a store has a run; `Store.Separates` — two names do not get into each other's way.
* `separates_name` — names with different numbers never do, in any store; `add_ofNat_ne` — numbers are counted up, and
  come back only behind all others.
* `Service.Kept.after` — what one request keeps; `Service.Kept.afterAll` — what all of them keep.
* `Service.getRun_of_stored` — the run that comes back.
-/

namespace DoomPatch

/-! ## Stores -/

namespace Store

variable {s : Store} {m : Medium} {r : Run} {age : Nat}

/-- The store has a run that was saved some time ago, if its time is not up. -/
def Keeps (s : Store) (m : Medium) (r : Run) (age : Nat) : Prop :=
  match s with
  | directory d => Directory.Stores m.files (d.place r.id) r
  | hashes h => h.reachable = true ∧ h.Holds r.id m (some (r, age))

/-- A run of the age is still kept. -/
def Lasts (s : Store) (age : Nat) : Prop :=
  match s with
  | directory _ => True
  | hashes h => (age : Int) < h.lifetime

/-- Runs of the two names do not get into each other's way. -/
def Separates (s : Store) (id id' : String) : Prop :=
  match s with
  | directory d => ∀ home, (d.place id).Apart home (d.place id')
  | hashes _ => id ≠ id'

/-- A run that was saved is kept. -/
theorem keeps_save {b : Buffer} (hb : r.lumps = b.lumps) (hid : r.id ≠ "") {place : String}
    (hsave : (s.save m (some r)).2 = .ok place) : s.Keeps (s.save m (some r)).1 r 0 := by
  cases s with
  | directory d =>
      rw [save_directory d m hid] at hsave ⊢
      exact Directory.stores_save hb hsave
  | hashes h =>
      rw [save_hashes h m hid] at hsave
      obtain ⟨hreach, hanswers⟩ := HashStore.answers_of_save hsave
      exact ⟨hreach, HashStore.holds_save hreach hanswers hid⟩

/-- A save under a separate name leaves the run. -/
theorem Keeps.save (hkeeps : s.Keeps m r age) {r' : Run} {b : Buffer} (hb : r'.lumps = b.lumps) (hid : r'.id ≠ "")
    (hseparate : s.Separates r'.id r.id) : s.Keeps (s.save m (some r')).1 r age := by
  cases s with
  | directory d =>
      rw [save_directory d m hid]
      exact Directory.Stores.confined hkeeps (Directory.confined_save hb d m.files) (hseparate _)
  | hashes h => exact ⟨hkeeps.1, hkeeps.2.save_of_ne hkeeps.1 hid hseparate⟩

theorem Keeps.wait (hkeeps : s.Keeps m r age) (time : Nat) :
    s.Keeps (s.after m (.wait time)) r (age + time) := by
  cases s with
  | directory d => exact hkeeps
  | hashes h => exact ⟨hkeeps.1, hkeeps.2.wait time⟩

theorem Keeps.load (hkeeps : s.Keeps m r age) (hr : r.Recordable) (hid : r.id ≠ "") (hlasts : s.Lasts age) :
    s.load m (some r.id) = .ok r.utc := by
  cases s with
  | directory d =>
      rw [load_directory d m hid]
      exact Directory.load_of_stores hr hkeeps
  | hashes h =>
      rw [load_hashes h m hid]
      exact hkeeps.2.load_of_fresh hkeeps.1 hr rfl hlasts

end Store

/-! ## Names -/

namespace RunNames

variable {names : RunNames} {n k : UInt64}

/-- Names are told apart by decimal numbers. -/
def Sequential (names : RunNames) : Prop := names.tag = fun n => String.ofList (Numeral.render 10 n.toNat)

theorem Sequential.tag_inj (hnames : names.Sequential) (heq : names.tag n = names.tag k) : n = k := by
  rw [hnames] at heq
  have hread := congrArg (fun s => Numeral.readNat? 10 s.toList) heq
  have hnumbers : n.toNat = k.toNat := by simpa [Numeral.readNat?_render] using hread
  exact UInt64.toNat_inj.1 hnumbers

theorem Sequential.isDigit_of_mem_tag (hnames : names.Sequential) {c : Char} (hc : c ∈ (names.tag n).toList) :
    c.isDigit = true := by
  rw [hnames, String.toList_ofList] at hc
  obtain ⟨d, hd, rfl⟩ := Numeral.mem_render (by decide) hc
  exact Numeral.isDigit_digitChar hd

/-- Names differ only in their tags. -/
theorem name_eq_append (names : RunNames) :
    ∃ stem : String, ∀ n, names.name n = stem ++ names.tag n := by
  by_cases hstem : names.stem = ""
  · refine ⟨"", fun n => ?_⟩
    rw [name, if_pos hstem, String.empty_append]
  · refine ⟨names.stem ++ "_", fun n => ?_⟩
    rw [name, if_neg hstem]

theorem Sequential.exists_mem_tag (hnames : names.Sequential) (n : UInt64) :
    ∃ c ∈ (names.tag n).toList, c.isDigit = true := by
  have hne : (names.tag n).toList ≠ [] := by
    rw [hnames, String.toList_ofList]
    exact Numeral.render_ne_nil 10 n.toNat
  obtain ⟨c, rest, hchars⟩ := List.exists_cons_of_ne_nil hne
  have hmem : c ∈ (names.tag n).toList := by
    rw [hchars]
    exact List.mem_cons_self
  exact ⟨c, hmem, hnames.isDigit_of_mem_tag hmem⟩

theorem Sequential.name_ne_empty (hnames : names.Sequential) (n : UInt64) : names.name n ≠ "" := by
  obtain ⟨stem, hname⟩ := names.name_eq_append
  obtain ⟨c, hc, -⟩ := hnames.exists_mem_tag n
  intro hempty
  rw [hname, String.append_eq_empty_iff] at hempty
  rw [hempty.2] at hc
  cases hc

/-- Names that are counted up do not get into each other's way, whatever they begin with. -/
theorem Sequential.separates_name (hnames : names.Sequential) (store : Store) (hne : n ≠ k) :
    store.Separates (names.name n) (names.name k) := by
  obtain ⟨stem, hname⟩ := names.name_eq_append
  have htag : names.tag n ≠ names.tag k := fun heq => hne (hnames.tag_inj heq)
  rw [hname, hname]
  cases store with
  | directory d =>
      -- The tags have no slash, so both names lead into one directory.
      obtain ⟨dir, last, hplace⟩ := Path.join_append (Path.ofText d.root) stem
      have hchild : ∀ n, d.place (stem ++ names.tag n) = dir.child (last ++ names.tag n) := by
        intro n
        obtain ⟨c, hc, hdigit⟩ := hnames.exists_mem_tag n
        refine hplace _ (fun hslash => ?_) ⟨c, hc, fun hdot => ?_⟩
        · exact absurd (hnames.isDigit_of_mem_tag hslash) (by decide)
        · exact absurd (hdot ▸ hdigit) (by decide)
      unfold Store.Separates
      dsimp only
      rw [hchild, hchild]
      exact fun home => Path.child_apart_child fun heq => htag (String.append_right_inj _ |>.1 heq)
  | hashes h => exact fun heq => htag (String.append_right_inj _ |>.1 heq)

end RunNames

/-! ## Requests -/

namespace Service

variable {s : Service} {n : UInt64} {r : Run} {age later : Nat}

/-- What is asked of a service, and the time that passes between. -/
inductive Request where
  | convert (request : Option (Patch × Bool))
  | showThing (request : Option (Patch × Int))
  | getRun (request : Option String)
  | wait (time : Nat)

/-- The time that passes, in nanoseconds. -/
def Request.time : Request → Nat
  | .wait time => time
  | _ => 0

/-- The time that passes in all. -/
def waited (requests : List Request) : Nat := requests.foldr (fun request total => request.time + total) 0

/-- The conversions among requests. -/
def conversions (requests : List Request) : Nat :=
  requests.countP fun
    | .convert _ => true
    | _ => false

/-- The service after a request. -/
def after (s : Service) : Request → Service
  | .convert request => (s.convert request).1
  | .showThing _ | .getRun _ => s
  | .wait time => { s with medium := s.store.after s.medium (.wait time) }

/-- The service after requests in order. -/
def afterAll (s : Service) (requests : List Request) : Service := requests.foldl after s

/-- The run that a service would store next. -/
def nextRun (s : Service) (lumps : List Lump) : Run := ⟨s.names.name (s.names.count + 1), s.now, lumps⟩

theorem persist_fst (s : Service) (c : Converted) :
    (s.persist c).1 = { s with
      medium := (s.store.save s.medium (some (s.nextRun c.lumps))).1
      names := { s.names with count := s.names.count + 1 } } := by
  unfold persist RunNames.next
  dsimp only [nextRun]
  split <;> rfl

theorem persist_ok {c c' : Converted} (hanswer : (s.persist c).2 = .ok c') :
    ∃ place, (s.store.save s.medium (some (s.nextRun c.lumps))).2 = .ok place ∧
      c' = { c with stored := some ((s.nextRun c.lumps).id, place) } := by
  unfold persist RunNames.next at hanswer
  dsimp only [nextRun] at hanswer ⊢
  split at hanswer
  · next place hsave => exact ⟨place, hsave, (Except.ok.inj hanswer).symm⟩
  · cases hanswer

theorem convert_ok {p : Patch} {c : Converted} (hconvert : p.convert = .ok c) :
    c.stored = none ∧ ∃ b : Buffer, c.lumps = b.lumps := by
  unfold Patch.convert at hconvert
  cases hprepare : p.prepare with
  | error e =>
      rw [hprepare] at hconvert
      cases hconvert
  | ok w =>
      rw [hprepare] at hconvert
      rcases hall : w.convertAll with ⟨w', failure⟩
      simp only [bind, Except.bind, hall] at hconvert
      cases failure with
      | some e => cases hconvert
      | none =>
          cases hconvert
          exact ⟨rfl, w'.press.buffer, rfl⟩

/-- A conversion leaves the service and stores nothing, or stores the lumps of a buffer. -/
theorem convert_cases (s : Service) (request : Option (Patch × Bool)) :
    ((s.convert request).1 = s ∧ ∀ c, (s.convert request).2 = .ok c → c.stored = none) ∨
      ∃ c : Converted, (∃ b : Buffer, c.lumps = b.lumps) ∧ s.convert request = s.persist c := by
  unfold convert
  cases request with
  | none => exact .inl ⟨rfl, nofun⟩
  | some request =>
      obtain ⟨p, keep⟩ := request
      dsimp only
      cases hconvert : p.convert with
      | error e => exact .inl ⟨rfl, nofun⟩
      | ok c =>
          obtain ⟨hstored, hlumps⟩ := convert_ok hconvert
          cases keep with
          | true => exact .inr ⟨c, hlumps, rfl⟩
          | false =>
              refine .inl ⟨rfl, fun c' heq => ?_⟩
              cases heq
              exact hstored

/-- The service has given out the name of a number and no more than some after it, and its store has the run of that
name. -/
structure Kept (s : Service) (n : UInt64) (r : Run) (age later : Nat) : Prop where
  sequential : s.names.Sequential
  given : ∃ k ≤ later, s.names.count = n + UInt64.ofNat k
  named : r.id = s.names.name n
  keeps : s.store.Keeps s.medium r age

/-- Counting on comes back to a number only behind all others. -/
theorem add_ofNat_ne {k : Nat} (hk : k + 1 < UInt64.size) : n + UInt64.ofNat k + 1 ≠ n := by
  intro heq
  have hsum := congrArg UInt64.toNat heq
  have hlt := n.toNat_lt
  have hsize : UInt64.size = 18446744073709551616 := rfl
  rw [UInt64.toNat_add, UInt64.toNat_add, UInt64.toNat_ofNat', UInt64.toNat_one] at hsum
  omega

theorem Kept.persist (hs : s.Kept n r age later) (hfew : later + 1 < UInt64.size) {c : Converted} {b : Buffer}
    (hb : c.lumps = b.lumps) : (s.persist c).1.Kept n r age (later + 1) := by
  obtain ⟨k, hk, hcount⟩ := hs.given
  rw [persist_fst]
  refine ⟨hs.sequential, ⟨k + 1, by omega, ?_⟩, hs.named, ?_⟩
  · change s.names.count + 1 = _
    rw [hcount, UInt64.ofNat_add, UInt64.add_assoc]
    rfl
  · -- The new name has another number.
    refine hs.keeps.save hb (hs.sequential.name_ne_empty _) ?_
    rw [hs.named]
    refine hs.sequential.separates_name s.store ?_
    rw [hcount]
    exact add_ofNat_ne (by omega)

theorem Kept.mono (hs : s.Kept n r age later) {later' : Nat} (hle : later ≤ later') : s.Kept n r age later' := by
  obtain ⟨k, hk, hcount⟩ := hs.given
  exact ⟨hs.sequential, ⟨k, Nat.le_trans hk hle, hcount⟩, hs.named, hs.keeps⟩

theorem Kept.after (hs : s.Kept n r age later) (request : Request)
    (hfew : later + conversions [request] < UInt64.size) :
    (s.after request).Kept n r (age + request.time) (later + conversions [request]) := by
  cases request with
  | convert request =>
      rcases s.convert_cases request with ⟨hsame, -⟩ | ⟨c, ⟨b, hb⟩, hpersist⟩
      · rw [Service.after, hsame]
        exact hs.mono (Nat.le_add_right _ _)
      · rw [Service.after, hpersist]
        exact hs.persist hfew hb
  | showThing request => exact hs
  | getRun request => exact hs
  | wait time => exact ⟨hs.sequential, hs.given, hs.named, hs.keeps.wait time⟩

theorem Kept.afterAll (hs : s.Kept n r age later) (requests : List Request)
    (hfew : later + conversions requests < UInt64.size) :
    (s.afterAll requests).Kept n r (age + waited requests) (later + conversions requests) := by
  induction requests generalizing s age later with
  | nil => exact hs
  | cons request requests ih =>
      have hcount : conversions (request :: requests) = conversions [request] + conversions requests := by
        unfold conversions
        rw [← List.countP_append]
        rfl
      rw [hcount, ← Nat.add_assoc] at hfew ⊢
      have hrest := ih (hs.after request (by omega)) hfew
      rw [Nat.add_assoc] at hrest
      exact hrest

theorem Kept.getRun (hs : s.Kept n r age later) (hr : r.Recordable) (hlasts : s.store.Lasts age) :
    s.getRun (some r.id) = .ok r.utc := by
  have hid : r.id ≠ "" := by
    rw [hs.named]
    exact hs.sequential.name_ne_empty n
  unfold Service.getRun
  dsimp only
  rw [if_neg hid, hs.keeps.load hr hid hlasts]
  rfl

/-- A request changes neither the store nor the clock, and leaves names sequential. -/
theorem after_fixed (s : Service) (request : Request) :
    (s.after request).store = s.store ∧ (s.after request).now = s.now ∧ (s.after request).names.tag = s.names.tag := by
  cases request with
  | convert request =>
      rcases s.convert_cases request with ⟨hsame, -⟩ | ⟨c, -, hpersist⟩
      · rw [after, hsame]
        exact ⟨rfl, rfl, rfl⟩
      · rw [after, hpersist, persist_fst]
        exact ⟨rfl, rfl, rfl⟩
  | showThing request => exact ⟨rfl, rfl, rfl⟩
  | getRun request => exact ⟨rfl, rfl, rfl⟩
  | wait time => exact ⟨rfl, rfl, rfl⟩

theorem afterAll_fixed (s : Service) (requests : List Request) :
    (s.afterAll requests).store = s.store ∧ (s.afterAll requests).now = s.now ∧
      (s.afterAll requests).names.tag = s.names.tag := by
  induction requests generalizing s with
  | nil => exact ⟨rfl, rfl, rfl⟩
  | cons request requests ih =>
      obtain ⟨hstore, hnow, htag⟩ := s.after_fixed request
      obtain ⟨hstore', hnow', htag'⟩ := ih (s.after request)
      exact ⟨hstore'.trans hstore, hnow'.trans hnow, htag'.trans htag⟩

/-- A conversion that names a stored run has it kept. -/
theorem kept_of_stored (hnames : s.names.Sequential) {request : Option (Patch × Bool)} {c : Converted}
    {id place : String} (hanswer : (s.convert request).2 = .ok c) (hstored : c.stored = some (id, place)) :
    (∃ b : Buffer, c.lumps = b.lumps) ∧
      (s.after (.convert request)).Kept (s.names.count + 1) ⟨id, s.now, c.lumps⟩ 0 0 := by
  unfold after
  dsimp only
  rcases s.convert_cases request with ⟨-, hnone⟩ | ⟨c₀, ⟨b, hb⟩, hpersist⟩
  · rw [hnone c hanswer] at hstored
    cases hstored
  · rw [hpersist] at hanswer ⊢
    obtain ⟨place', hsave, rfl⟩ := persist_ok hanswer
    cases hstored
    refine ⟨⟨b, hb⟩, ?_⟩
    rw [persist_fst]
    refine ⟨hnames, ⟨0, Nat.le_refl _, (UInt64.add_zero _).symm⟩, rfl, ?_⟩
    exact Store.keeps_save hb (hnames.name_ne_empty _) hsave

/-- Once a conversion has named a stored run, the run comes back under that name with the time of the service and the
lumps of the conversion, in their order, whatever is asked before and between, for as long as the store keeps it and
the count of names does not come round to the same number. -/
theorem getRun_of_stored (s : Service) (hnames : s.names.Sequential) (hnow : s.now.Recordable)
    (before between : List Request) {request : Option (Patch × Bool)} {c : Converted} {id place : String}
    (hanswer : ((s.afterAll before).convert request).2 = .ok c) (hstored : c.stored = some (id, place))
    (hlasts : s.store.Lasts (waited between)) (hfew : conversions between < UInt64.size) :
    (s.afterAll (before ++ .convert request :: between)).getRun (some id) = .ok ⟨id, s.now.utc, c.lumps⟩ := by
  obtain ⟨-, hclock, htag⟩ := s.afterAll_fixed before
  have hnames' : (s.afterAll before).names.Sequential := htag.trans hnames
  obtain ⟨hlumps, hkept⟩ := kept_of_stored hnames' hanswer hstored
  rw [hclock] at hkept
  have hend : s.afterAll (before ++ .convert request :: between) =
      ((s.afterAll before).after (.convert request)).afterAll between := List.foldl_append
  have hlasts' : (s.afterAll (before ++ .convert request :: between)).store.Lasts (0 + waited between) := by
    rw [(s.afterAll_fixed _).1, Nat.zero_add]
    exact hlasts
  rw [hend] at hlasts' ⊢
  exact (hkept.afterAll between (by omega)).getRun ⟨hnow, hlumps⟩ hlasts'

/-- In a directory, a conversion is stored under the next name if that fits. -/
theorem convert_of_fits {d : Directory} (hstore : s.store = .directory d) {p : Patch} {c : Converted}
    (hconvert : p.convert = .ok c) {id : String} (hid : s.names.name (s.names.count + 1) = id) (hne : id ≠ "")
    (hfits : d.Fits s.medium.files.home id) (hopen : Directory.Open s.medium.files (d.place id)) :
    (s.convert (some (p, true))).2 = .ok { c with stored := some (id, (d.place id).text) } := by
  obtain ⟨-, b, hb⟩ := convert_ok hconvert
  have hsave : (s.store.save s.medium (some ⟨id, s.now, c.lumps⟩)).2 = .ok (d.place id).text := by
    rw [hstore, Store.save_directory d _ hne]
    exact Directory.save_of_fits (r := ⟨id, s.now, c.lumps⟩) hb hfits hopen
  unfold convert
  dsimp only
  rw [hconvert]
  unfold persist RunNames.next
  dsimp only
  rw [if_pos rfl, hid, hsave]

set_option maxRecDepth 10000 in
/-- A phrase is converted and stored; the same is then stored again, and more than a week passes. -/
theorem getRun_of_stored_phrase :
    let s : Service :=
      { store := .directory ⟨"runs"⟩, names := { stem := "run" }, now := { seconds := 0, nanos := 5, offset := 60 } }
    let request : Option (Patch × Bool) := some (⟨21, [.phrase "GOTARMOR" "Hi"]⟩, true)
    let before : List Request := [.showThing none, .wait 3000000000]
    let between : List Request := [.convert request, .getRun (some "run_2"), .wait 700000000000000]
    ∃ c, (s.names.Sequential ∧ s.now.Recordable ∧ ((s.afterAll before).convert request).2 = .ok c ∧
        c.stored = some ("run_1", "runs/run_1") ∧ s.store.Lasts (waited between) ∧
        conversions between < UInt64.size) ∧
      c.lumps.map Lump.text = ["<LANGUAGES>\n\n[ENGLISH]\nGotArmour = \"Hi\";\n\n"] ∧
      (s.afterAll (before ++ .convert request :: between)).getRun (some "run_1") =
        .ok ⟨"run_1", s.now.utc, c.lumps⟩ := by
  intro s request before between
  have hnow : s.now.Recordable := ⟨by decide, by decide, by decide⟩
  have hfits : (⟨"runs"⟩ : Directory).Fits [] "run_1" := ⟨by decide, by decide, by decide⟩
  have hvacant : Directory.Vacant ({} : FileTree) ((⟨"runs"⟩ : Directory).place "run_1") :=
    .of_unoccupied (by decide) (by decide) (by decide)
  have hplace : ((⟨"runs"⟩ : Directory).place "run_1").text = "runs/run_1" := by decide
  have hname : ({ stem := "run" } : RunNames).name 1 = "run_1" := by
    have htag : Numeral.render 10 (1 : UInt64).toNat = ['1'] := by
      change Numeral.render 10 1 = ['1']
      rw [Numeral.render, Numeral.digits]
      rfl
    unfold RunNames.name
    dsimp only
    rw [htag]
    decide
  have hlumps : (Patch.convert ⟨21, [.phrase "GOTARMOR" "Hi"]⟩).toOption.map (fun c => c.lumps.map Lump.text) =
      some ["<LANGUAGES>\n\n[ENGLISH]\nGotArmour = \"Hi\";\n\n"] := by decide
  cases hconvert : Patch.convert ⟨21, [.phrase "GOTARMOR" "Hi"]⟩ with
  | error e =>
      rw [hconvert] at hlumps
      cases hlumps
  | ok c =>
      rw [hconvert] at hlumps
      have hanswer := convert_of_fits (s := s.afterAll before) rfl hconvert hname (by decide) hfits hvacant.toOpen
      rw [hplace] at hanswer
      exact ⟨_, ⟨rfl, hnow, hanswer, rfl, trivial, by decide⟩, Option.some.inj hlumps,
        getRun_of_stored s rfl hnow before between hanswer rfl trivial (by decide)⟩

end Service
end DoomPatch
