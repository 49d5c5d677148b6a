import DoomPatch.Proofs.SortedMap
import DoomPatch.Proofs.Time.Stamp
import DoomPatch.Run
import DoomPatch.Store.Error

/-!
# Runs that can be stored

A store writes down the time of a run, and its lumps by name, each with its digest.  What is written can be read back
if the year has no more than four digits and the lumps are those of a buffer, which have different names.

* `Digest.read?_text` — the written digest is read back; `check_text` — and a text that was not changed passes.
* `LumpKind.name_inj` — the kinds that are listed have different names.
* `Run.Recordable` — the runs that can be stored; `Run.utc` — what is loaded of them.
* `Buffer.mem_lumps_iff`, `Buffer.nodup_names` — the lumps of a buffer.
-/

namespace DoomPatch

theorem Digest.read?_text (d : UInt64) : read? (text d) = some d := by
  have hread : Numeral.readNat? 16 (text d).toList = some d.toNat := by
    unfold text Numeral.hex
    rw [String.toList_ofList, Numeral.readNat?_render (by decide) (by decide)]
  unfold read?
  rw [hread]
  dsimp only
  rw [if_pos d.toNat_lt, UInt64.ofNat_toNat]

/-- A text passes the check against its own digest. -/
theorem StoreError.check_text (id name text : String) :
    check id name text (Digest.text (Digest.ofText text)) = .ok () := by
  unfold check
  rw [Digest.read?_text]
  dsimp only
  rw [if_pos rfl]

theorem LumpKind.name_inj {k k' : LumpKind} (hk : k ∈ all) (hk' : k' ∈ all) (hname : k.name = k'.name) : k = k' := by
  have hall : ∀ k ∈ all, ∀ k' ∈ all, k.name = k'.name → k = k' := by decide
  exact hall k hk k' hk' hname

namespace Buffer

variable {b : Buffer}

theorem mem_lumps_iff {l : Lump} :
    l ∈ b.lumps ↔ l.kind ∈ LumpKind.all ∧ l.name = l.kind.name ∧ b.find? l.kind = some l.text := by
  unfold lumps
  rw [List.mem_filterMap]
  constructor
  · rintro ⟨k, hk, hlump⟩
    obtain ⟨text, hfind, rfl⟩ := Option.map_eq_some_iff.1 hlump
    exact ⟨hk, rfl, hfind⟩
  · rintro ⟨hk, hname, hfind⟩
    refine ⟨l.kind, hk, ?_⟩
    rw [hfind, ← hname]
    rfl

/-- Listed lumps have different names. -/
theorem nodup_names (b : Buffer) : (b.lumps.map Lump.name).Nodup := by
  have hall : (LumpKind.all.map LumpKind.name).Nodup := by decide
  refine List.Nodup.sublist ?_ hall
  have hnames : ∀ kinds : List LumpKind,
      ((kinds.filterMap fun k => (b.find? k).map fun t => (⟨k, k.name, t⟩ : Lump)).map Lump.name).Sublist
        (kinds.map LumpKind.name) := by
    intro kinds
    induction kinds with
    | nil => exact .refl _
    | cons k kinds ih =>
        rw [List.filterMap_cons]
        cases b.find? k with
        | none => exact ih.cons _
        | some t => exact ih.cons_cons _
  exact hnames LumpKind.all

end Buffer

namespace Run

/-- The run can be written down and read back. -/
structure Recordable (r : Run) : Prop where
  created : r.created.Recordable
  lumps : ∃ b : Buffer, r.lumps = b.lumps

/-- The run with its time in universal time. -/
def utc (r : Run) : Run := { r with created := r.created.utc }

end Run
end DoomPatch
