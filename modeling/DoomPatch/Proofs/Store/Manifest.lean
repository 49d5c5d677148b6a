import DoomPatch.Proofs.Store.Recorded
import DoomPatch.Proofs.Toml.Reader
import DoomPatch.Store.Manifest

/-!
# Reading back manifests

The written manifest of a run is read as that manifest, whatever characters its name has.

* `statements` — what the written form says; `parses_text` — and it says nothing else.
* `collect?_statements` — the table that it describes.
* `read?_text` — the manifest that is read; `digests_of_read?_text` — its digests are read whatever its time, if
  anything is.
-/

namespace DoomPatch

namespace Manifest

open Toml

variable {m : Manifest}

/-- The manifest can be written down: its time is a recordable one in universal time, and its digests are of lumps with
plain names. -/
structure Recordable (m : Manifest) : Prop where
  created : m.created.Recordable
  utc : m.created.utc = m.created
  plain : ∀ name ∈ m.digests.keys, isPlainName name = true

/-- What the written form of a manifest says. -/
def statements (m : Manifest) : List Statement :=
  .assignment ["id"] (.atom (.text m.id)) :: .assignment ["created_at"] (.atom (.stamp m.created)) ::
    .heading ["digests"] :: m.digests.entries.map fun e => .assignment [e.1] (.atom (.text e.2))

/-! ### The table of a manifest -/

/-- A plain value for a new name. -/
theorem add?_assignment {d : Toml.Draft} {es : Entries} {name : String} {v : Value} (d' : Toml.Draft)
    (htable : d.entries.table? d.here = some es) (hnew : es.lookup name = none)
    (hput : d.put? d.here name v = some d') :
    d.add? (.assignment [name] (.atom v)) = some (d'.note d.here name false) := by
  have hassign : d.assign? d.here name v = some d' := by
    unfold Toml.Draft.assign?
    rw [htable, Option.bind_some, hnew]
    exact hput
  unfold Toml.Draft.add?
  simp [Toml.Draft.members?, Toml.Draft.descend?, Toml.Draft.value?, Entries.graft?, Entries.put, hassign, Term.isList]

/-- The table of a manifest before and while its digests are read. -/
def topEntries (id : String) (created : Stamp) : Entries := [("id", .text id), ("created_at", .stamp created)]

/-- The tables of a manifest while its digests are read. -/
def belowDigests (id : String) (created : Stamp) (sub : Entries) : Toml.Draft where
  entries := topEntries id created ++ [("digests", .table sub)]
  here := ["digests"]

theorem add?_digest {id : String} {created : Stamp} {sub : Entries} {name digest : String}
    (hnew : sub.lookup name = none) :
    (belowDigests id created sub).add? (.assignment [name] (.atom (.text digest))) =
      some (belowDigests id created (sub ++ [(name, .text digest)])) := by
  have hput : (belowDigests id created sub).put? ["digests"] name (.text digest) =
      some (belowDigests id created (sub ++ [(name, .text digest)])) := by
    have hsub : sub.put name (.text digest) = sub ++ [(name, .text digest)] := by
      unfold Entries.put
      rw [hnew]
      rfl
    rw [← hsub]
    rfl
  have htable : (belowDigests id created sub).entries.table? (belowDigests id created sub).here = some sub := rfl
  rw [add?_assignment _ htable hnew hput]
  rfl

theorem foldlM_digests {id : String} {created : Stamp} (digests : List (String × String)) (sub : Entries)
    (hnodup : (digests.map Prod.fst).Nodup) (hnew : ∀ e ∈ digests, sub.lookup e.1 = none) :
    (digests.map fun e => Statement.assignment [e.1] (.atom (.text e.2))).foldlM Toml.Draft.add?
        (belowDigests id created sub) =
      some (belowDigests id created (sub ++ digests.map fun e => (e.1, .text e.2))) := by
  induction digests generalizing sub with
  | nil => simp
  | cons e digests ih =>
      rw [List.map_cons, List.nodup_cons] at hnodup
      have hrest : ∀ e' ∈ digests, (sub ++ [(e.1, Value.text e.2)]).lookup e'.1 = none := by
        intro e' he'
        have hne : e'.1 ≠ e.1 := fun heq => hnodup.1 (heq ▸ List.mem_map_of_mem he')
        rw [List.lookup_append, hnew e' (List.mem_cons_of_mem _ he'), Option.none_or, List.lookup_cons,
          beq_false_of_ne hne]
        rfl
      rw [List.map_cons, List.foldlM_cons, add?_digest (hnew e List.mem_cons_self)]
      simp only [Option.bind_eq_bind, Option.bind_some]
      rw [ih _ hnodup.2 hrest]
      simp

/-- The table of a manifest. -/
def table (m : Manifest) : Entries :=
  topEntries m.id m.created ++ [("digests", .table (m.digests.entries.map fun e => (e.1, .text e.2)))]

/-- The statements of a manifest describe its table. -/
theorem collect?_statements (m : Manifest) : Statement.collect? m.statements = some m.table := by
  have htop : Toml.Draft.add? {} (.assignment ["id"] (.atom (.text m.id))) = some { entries := [("id", .text m.id)] } :=
    add?_assignment { entries := [("id", .text m.id)] } rfl rfl rfl
  have hcreated : Toml.Draft.add? { entries := [("id", .text m.id)] }
      (.assignment ["created_at"] (.atom (.stamp m.created))) =
      some { entries := topEntries m.id m.created } :=
    add?_assignment { entries := topEntries m.id m.created } rfl rfl rfl
  have hheading : Toml.Draft.add? { entries := topEntries m.id m.created } (.heading ["digests"]) =
      some (belowDigests m.id m.created []) := rfl
  unfold Statement.collect? statements
  simp only [List.foldlM_cons, htop, hcreated, hheading, Option.bind_eq_bind, Option.bind_some]
  rw [foldlM_digests _ _ m.digests.nodup_keys fun _ _ => rfl]
  rfl

/-! ### The text of a manifest -/

/-- The lines of the digests. -/
def digestLines (digests : List (String × String)) : List Char := digests.flatMap fun e => (digestLine e.1 e.2).toList

theorem toList_join (l : List String) : (String.join l).toList = l.flatMap String.toList := by
  have hfold : ∀ (l : List String) (acc : String),
      (l.foldl (fun r s => r ++ s) acc).toList = acc.toList ++ l.flatMap String.toList := by
    intro l
    induction l with
    | nil => simp
    | cons s l ih =>
        intro acc
        rw [List.foldl_cons, ih, String.toList_append, List.flatMap_cons, List.append_assoc]
  exact hfold l ""

theorem toList_digestLine {name : String} (hname : isPlainName name = true) (digest : String) :
    (digestLine name digest).toList =
      ' ' :: ' ' :: (name.toList ++ ' ' :: '=' :: ' ' :: ((quoted digest).toList ++ ['\n'])) := by
  unfold digestLine nameText
  rw [if_pos hname]
  simp

theorem toList_text (m : Manifest) :
    m.text.toList = "id".toList ++ ' ' :: '=' :: ' ' :: ((quoted m.id).toList ++
      '\n' :: ("created_at".toList ++ ' ' :: '=' :: ' ' :: (m.created.text.toList ++
        '\n' :: '\n' :: '[' :: ("digests".toList ++ ']' :: '\n' :: digestLines m.digests.entries)))) := by
  unfold text digestLines
  simp only [String.toList_append, toList_join, List.flatMap_map]
  simp

theorem isGap_of_head_quoted (s : String) (c : Char) (hc : (quoted s).toList.head? = some c) : isGap c = false := by
  simp only [quoted, String.toList_ofList, List.head?_cons, Option.some.injEq] at hc
  subst hc
  decide

theorem parses_digestLines {digests : List (String × String)} (hplain : ∀ e ∈ digests, isPlainName e.1 = true) :
    Parses (digestLines digests) (digests.map fun e => .assignment [e.1] (.atom (.text e.2))) := by
  induction digests with
  | nil => exact Parses.nil
  | cons e digests ih =>
      have hrest := ih fun e' he' => hplain e' (List.mem_cons_of_mem _ he')
      have hname := hplain e List.mem_cons_self
      have hchars : digestLines (e :: digests) = ' ' :: ' ' :: (e.1.toList ++ ' ' :: '=' :: ' ' ::
          ((quoted e.2).toList ++ '\n' :: digestLines digests)) := by
        unfold digestLines
        rw [List.flatMap_cons, toList_digestLine hname]
        simp
      rw [hchars, List.map_cons]
      refine Parses.assignment hname (isGap_of_head_quoted e.2) (term?_quoted e.2 _) (fun fuel => ?_) hrest
      rw [skipLines_blank, skipLines_blank]

theorem isGap_of_head_text (hoffset : m.created.offset = 0) (c : Char) (hc : m.created.text.toList.head? = some c) :
    isGap c = false := by
  have hmark := isStampMark_of_mem_text hoffset (List.mem_of_head? hc)
  have hblank : c ≠ ' ' ∧ c ≠ '\t' := by
    constructor <;> (rintro rfl; exact absurd hmark (by decide))
  simp [isGap, hblank]

/-- The lines from the heading on are read as the digests. -/
theorem parses_digests (hplain : ∀ name ∈ m.digests.keys, isPlainName name = true) :
    Parses ('\n' :: '[' :: ("digests".toList ++ ']' :: '\n' :: digestLines m.digests.entries))
      (.heading ["digests"] :: m.digests.entries.map fun e => .assignment [e.1] (.atom (.text e.2))) := by
  refine Parses.cons ?_ (statement?_heading (by decide) _)
    (parses_digestLines fun e he => hplain e.1 (List.mem_map_of_mem he))
  rw [skipLines_feed]
  exact skipLines_of_start (by decide) (by decide) (by decide) _

/-- The written form of a manifest consists of its statements, with the time that is read. -/
theorem parses_text (hplain : ∀ name ∈ m.digests.keys, isPlainName name = true) (hoffset : m.created.offset = 0)
    {created : Stamp}
    (hterm : ∀ fuel, term? (fuel + 1) (m.created.text.toList ++
        '\n' :: '\n' :: '[' :: ("digests".toList ++ ']' :: '\n' :: digestLines m.digests.entries)) =
      some (.atom (.stamp created), '\n' :: '\n' :: '[' ::
        ("digests".toList ++ ']' :: '\n' :: digestLines m.digests.entries))) :
    Parses m.text.toList { m with created }.statements := by
  have hcreated := Parses.assignment (by decide : isPlainName "created_at" = true) (isGap_of_head_text hoffset)
    hterm (fun _ => rfl) (parses_digests hplain)
  rw [toList_text]
  exact Parses.assignment (by decide) (isGap_of_head_quoted m.id) (term?_quoted m.id _) (fun _ => rfl) hcreated

/-- The characters of a fixed text are checked one by one. -/
theorem isVisible_of_all {s : String} (hall : (s.toList.all fun c => decide (isVisible c ∨ c = '\n')) = true) :
    ∀ c ∈ s.toList, isVisible c ∨ c = '\n' := fun c hc => of_decide_eq_true (List.all_eq_true.1 hall c hc)

theorem isVisible_of_mem_digestLine {name : String} (hname : isPlainName name = true) (digest : String) :
    ∀ c ∈ (digestLine name digest).toList, isVisible c ∨ c = '\n' := by
  have hchars : ∀ c ∈ name.toList, isVisible c ∨ c = '\n' := fun c hc =>
    .inl (isVisible_of_isBare (.inl ((isPlainName_iff.1 hname).2 c hc)))
  have hdigest : ∀ c ∈ (quoted digest).toList, isVisible c ∨ c = '\n' := fun c hc => .inl (isVisible_of_mem_quoted hc)
  unfold digestLine nameText
  rw [if_pos hname]
  simp only [String.toList_append, List.forall_mem_append]
  exact ⟨⟨⟨⟨isVisible_of_all (by decide), hchars⟩, isVisible_of_all (by decide)⟩, hdigest⟩,
    isVisible_of_all (by decide)⟩

theorem isVisible_of_mem_text (hplain : ∀ name ∈ m.digests.keys, isPlainName name = true)
    (hoffset : m.created.offset = 0) : ∀ c ∈ m.text.toList, isVisible c ∨ c = '\n' := by
  have hid : ∀ c ∈ (quoted m.id).toList, isVisible c ∨ c = '\n' := fun c hc => .inl (isVisible_of_mem_quoted hc)
  have hcreated : ∀ c ∈ m.created.text.toList, isVisible c ∨ c = '\n' := fun c hc =>
    .inl (isVisible_of_isBare (.inr (isStampMark_of_mem_text hoffset hc)))
  have hlines : ∀ c ∈ (String.join (m.digests.entries.map fun e => digestLine e.1 e.2)).toList,
      isVisible c ∨ c = '\n' := by
    intro c hc
    rw [toList_join, List.flatMap_map] at hc
    obtain ⟨e, he, hc⟩ := List.mem_flatMap.1 hc
    exact isVisible_of_mem_digestLine (hplain e.1 (List.mem_map_of_mem he)) e.2 c hc
  unfold text
  simp only [String.toList_append, List.forall_mem_append]
  exact ⟨⟨⟨⟨⟨isVisible_of_all (by decide), hid⟩, isVisible_of_all (by decide)⟩, hcreated⟩,
    isVisible_of_all (by decide)⟩, hlines⟩

theorem length_statements_le (m : Manifest) : m.statements.length ≤ m.text.toList.length := by
  have hlines : ∀ digests : List (String × String), digests.length ≤ (digestLines digests).length := by
    intro digests
    induction digests with
    | nil => exact Nat.le_refl _
    | cons e digests ih =>
        have hline : 0 < (digestLine e.1 e.2).toList.length := by simp [digestLine]
        unfold digestLines at ih ⊢
        rw [List.flatMap_cons, List.length_append, List.length_cons]
        omega
  have hdigests := hlines m.digests.entries
  rw [toList_text]
  simp only [statements, List.length_cons, List.length_map, List.length_append]
  omega

/-- What the text of a manifest is read as, with the time that is read. -/
theorem statements?_text (hplain : ∀ name ∈ m.digests.keys, isPlainName name = true) (hoffset : m.created.offset = 0)
    {created : Stamp} (hparses : Parses m.text.toList { m with created }.statements) :
    statements? m.text = some { m with created }.statements := by
  obtain ⟨cs, hcs⟩ : ∃ cs, m.text.toList = 'i' :: cs := ⟨_, toList_text m⟩
  exact statements?_of_parses hcs (by decide) (isVisible_of_mem_text hplain hoffset) (length_statements_le m) hparses

/-- The text of a manifest is read as its table. -/
theorem tableOf_text (hm : m.Recordable) : Toml.read? m.text = some m.table := by
  have hoffset : m.created.offset = 0 := hm.utc ▸ rfl
  have hstatements := statements?_text hm.plain hoffset
    (parses_text hm.plain hoffset (hm.utc ▸ term?_stamp hm.created _))
  unfold Toml.read?
  rw [hstatements, Option.bind_some, collect?_statements]

theorem addDigests?_texts (m : Manifest) (digests : List (String × String)) :
    m.addDigests? (digests.map fun e => (e.1, .text e.2)) =
      some { m with digests := digests.foldl (fun d e => d.insert e.1 e.2) m.digests } := by
  unfold addDigests?
  induction digests generalizing m with
  | nil => rfl
  | cons e digests ih =>
      rw [List.map_cons, List.foldlM_cons]
      simp only [Option.bind_eq_bind, Option.bind_some]
      rw [ih]
      rfl

/-- The table of a manifest is taken over if its time is. -/
theorem overlay?_table (m : Manifest) :
    m.table.overlay? ["id", "created_at", "digests"] set? ⟨"", Stamp.zero, SortedMap.empty⟩ =
      (stampOf? (.stamp m.created)).map fun created => { m with created } := by
  have hdigests : m.digests.entries.foldl (fun d e => d.insert e.1 e.2) SortedMap.empty = m.digests :=
    m.digests.ofList_entries
  have hnames : ∀ name ∈ ["id", "created_at", "digests"],
      meaning? ["id", "created_at", "digests"] name = some name := by decide
  simp only [Entries.overlay?, table, topEntries, List.cons_append, List.nil_append, List.foldlM_cons, List.foldlM_nil]
  rw [hnames "id" (by decide), hnames "created_at" (by decide), hnames "digests" (by decide)]
  cases hstamp : stampOf? (.stamp m.created) with
  | none => simp [set?, hstamp]
  | some created => simp [set?, hstamp, addDigests?_texts, hdigests]

/-- The written form of a manifest is read as the manifest. -/
theorem read?_text (hm : m.Recordable) : read? m.text = some m := by
  have hoffset : m.created.offset = 0 := hm.utc ▸ rfl
  unfold read?
  rw [tableOf_text hm, Option.bind_some, overlay?_table]
  simp [stampOf?, hoffset]

/-- A manifest whose time cannot be read up to the end of its line is not read. -/
theorem statements?_text_eq_none (hoffset : m.created.offset = 0)
    (hterm : ∀ fuel x, term? (fuel + 1) (m.created.text.toList ++
        '\n' :: '\n' :: '[' :: ("digests".toList ++ ']' :: '\n' :: digestLines m.digests.entries)) = some x →
      endLine? x.2 = none) : statements? m.text = none := by
  have hid := fun rest => statement?_assignment (by decide : isPlainName "id" = true) (isGap_of_head_quoted m.id)
    (term?_quoted m.id rest)
  have hcreated : statement? ("created_at".toList ++ ' ' :: '=' :: ' ' :: (m.created.text.toList ++
      '\n' :: '\n' :: '[' :: ("digests".toList ++ ']' :: '\n' :: digestLines m.digests.entries))) = none := by
    rw [statement?_of_term? (by decide) (isGap_of_head_text hoffset), Option.bind_eq_none_iff]
    intro x hx
    rw [hterm _ x hx]
    rfl
  have hchars := toList_text m
  unfold statements?
  have hdrop : dropMark m.text.toList = m.text.toList := by
    rw [hchars]
    rfl
  rw [hdrop]
  dsimp only
  split
  · rw [hchars, statementsFrom?_succ (skipLines_plain (by decide) _ _) (hid _),
      statementsFrom?_eq_none (skipLines_plain (by decide) _ _) (by simp) hcreated]
    rfl
  · rfl

/-- Of a manifest with any time, either nothing is read or the digests are. -/
theorem digests_of_read?_text (hplain : ∀ name ∈ m.digests.keys, isPlainName name = true)
    (hoffset : m.created.offset = 0) {m' : Manifest} (hread : read? m.text = some m') : m'.digests = m.digests := by
  unfold read? Toml.read? at hread
  rcases term?_text_cases hoffset _ with ⟨created, hterm⟩ | hterm
  · rw [statements?_text hplain hoffset (parses_text hplain hoffset hterm), Option.bind_some, collect?_statements,
      Option.bind_some] at hread
    obtain ⟨stamp, -, rfl⟩ := Option.map_eq_some_iff.1 ((overlay?_table { m with created }).symm.trans hread)
    rfl
  · rw [statements?_text_eq_none hoffset hterm] at hread
    cases hread

variable {r : Run} {b : Buffer}

/-- The digests of a run are of lumps with plain names. -/
theorem plain_ofRun (hb : r.lumps = b.lumps) : ∀ name ∈ (ofRun r).digests.keys, isPlainName name = true := by
  intro name hname
  -- A digest stands under the name of a lump, and so of a listed kind.
  have hlump : name ∈ r.lumps.map Lump.name := by
    rw [SortedMap.mem_keys_iff] at hname
    refine Decidable.byContradiction fun hout => ?_
    rw [ofRun, SortedMap.get?_ofList_of_not_mem (by simpa using hout)] at hname
    cases hname
  obtain ⟨l, hl, rfl⟩ := List.mem_map.1 hlump
  obtain ⟨hkind, hlname, -⟩ := Buffer.mem_lumps_iff.1 (hb ▸ hl)
  have hall : ∀ k ∈ LumpKind.all, isPlainName k.name = true := by decide
  rw [hlname]
  exact hall _ hkind

/-- The manifest of a run that can be stored can be written down. -/
theorem recordable_ofRun (hr : r.Recordable) : (ofRun r).Recordable := by
  obtain ⟨b, hb⟩ := hr.lumps
  exact ⟨⟨hr.created.nanos_lt, hr.created.year_nonneg, hr.created.year_le⟩, rfl, plain_ofRun hb⟩

/-- A digest stands in the manifest exactly if the lump was listed. -/
theorem get?_digests_ofRun (hb : r.lumps = b.lumps) {k : LumpKind} (hk : k ∈ LumpKind.all) :
    (ofRun r).digests.get? k.name = (b.find? k).map fun text => Digest.text (Digest.ofText text) := by
  have hnames : (r.lumps.map fun l => (l.name, Digest.text (Digest.ofText l.text))).map Prod.fst =
      b.lumps.map Lump.name := by
    rw [hb, List.map_map]
    rfl
  cases hfind : b.find? k with
  | some text =>
      have hlump : (⟨k, k.name, text⟩ : Lump) ∈ r.lumps := hb ▸ Buffer.mem_lumps_iff.2 ⟨hk, rfl, hfind⟩
      refine SortedMap.get?_ofList_of_mem (hnames ▸ b.nodup_names) ?_
      exact List.mem_map.2 ⟨_, hlump, rfl⟩
  | none =>
      refine SortedMap.get?_ofList_of_not_mem fun hmem => ?_
      rw [hnames] at hmem
      obtain ⟨l, hl, hname⟩ := List.mem_map.1 hmem
      obtain ⟨hkind, hlname, htext⟩ := Buffer.mem_lumps_iff.1 hl
      rw [LumpKind.name_inj hkind hk (hlname.symm.trans hname), hfind] at htext
      cases htext

end Manifest
end DoomPatch
