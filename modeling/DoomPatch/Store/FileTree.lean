import DoomPatch.SortedMap
import DoomPatch.Store.Path

/-!
# Trees of files

Directories and files by the names that lead to them from the top.  What stands anywhere stands in a directory; that
is part of the type.  An operation fails as it does on a disk: a file stands in the way of everything below it, and a
file is written only where its directory exists.

* `FileTree.find` — what stands at a place; `FileTree.reach` — where a written path leads.
* `FileTree.read` — the text of a file.
* `FileTree.clear` — empties a place and removes it.
* `FileTree.make` — makes a directory and those above it.
* `FileTree.write?` — writes a file.
-/

namespace DoomPatch

/-- What stands at a place. -/
inductive FileEntry where
  /-- A directory. -/
  | directory
  /-- A file. -/
  | file (text : String)
deriving DecidableEq

namespace FileTree

/-- What stands of itself in any tree: the top, and the device that is always empty, in its directory. -/
def fixed? : List String → Option FileEntry
  | [] | ["dev"] => some .directory
  | ["dev", "null"] => some (.file "")
  | _ => none

/-- What stands where names lead from the top. -/
def standing (entries : SortedMap (List String) FileEntry) (names : List String) : Option FileEntry :=
  (fixed? names).or (entries.get? names)

/-- What stands anywhere stands in a directory. -/
def Founded (entries : SortedMap (List String) FileEntry) : Prop :=
  ∀ names, standing entries names ≠ none → standing entries names.dropLast = some .directory

theorem fixed?_dropLast {names : List String} (hfixed : fixed? names ≠ none) :
    fixed? names.dropLast = some .directory := by
  unfold fixed? at hfixed
  split at hfixed
  · rfl
  · rfl
  · rfl
  · exact absurd rfl hfixed

theorem standing_of_fixed {names : List String} (hfixed : fixed? names ≠ none)
    (entries : SortedMap (List String) FileEntry) : standing entries names = fixed? names := by
  obtain ⟨e, he⟩ := Option.ne_none_iff_exists'.1 hfixed
  rw [standing, he, Option.some_or]

theorem founded_empty : Founded ∅ := by
  intro names hstands
  have hfixed : fixed? names ≠ none := by
    intro hnone
    rw [standing, hnone] at hstands
    exact hstands rfl
  have hparent := fixed?_dropLast hfixed
  rw [standing_of_fixed (by simp [hparent]), hparent]

end FileTree

/-- Directories and files. -/
structure FileTree where
  /-- What stands where names lead from the top, beside what stands of itself. -/
  entries : SortedMap (List String) FileEntry := ∅
  /-- The names that lead to the working directory.  It is found by them, also if it was removed and made again. -/
  home : List String := []
  /-- What stands anywhere stands in a directory. -/
  founded : FileTree.Founded entries := by exact FileTree.founded_empty

/-- Why a file cannot be read. -/
inductive Absence where
  /-- Nothing stands there. -/
  | missing
  /-- Something else stands there or in the way. -/
  | blocked
deriving DecidableEq, Repr

namespace FileTree

/-- What stands at a place. -/
def at? (t : FileTree) (p : Path) : Option FileEntry := standing t.entries (p.names t.home)

/-- Whether a directory stands at a place. -/
def isDirectory (t : FileTree) (p : Path) : Bool := t.at? p = some .directory

/-- What stands at the last of some places, each below the one before. -/
def walk (t : FileTree) : List Path → Except Absence FileEntry
  | [] => .ok .directory
  | p :: rest =>
    if !p.isShort then .error .blocked
    else
      match t.at? p with
      | none => .error .missing
      | some .directory => t.walk rest
      | some (.file text) => if rest.isEmpty then .ok (.file text) else .error .blocked

/-- What stands at a place, if there is a way to it. -/
def find (t : FileTree) (p : Path) : Except Absence FileEntry :=
  if Path.isWritable p.text then t.walk p.trail else .error .blocked

/-- Follows the pieces of a written path from a directory.  Only directories can be passed, also on the way
back up. -/
def follow (t : FileTree) (place : Path) : List (List Char) → Except Absence FileEntry
  | [] => .ok .directory
  | piece :: rest =>
    let next := place.step piece
    if !next.isShort then .error .blocked
    else
      match t.at? next with
      | none => .error .missing
      | some .directory => t.follow next rest
      | some (.file text) => if rest.isEmpty then .ok (.file text) else .error .blocked

/-- What stands where a written path leads. -/
def reach (t : FileTree) (text : String) : Except Absence FileEntry :=
  if text = "" then .error .missing
  else if Path.isWritable text then t.follow (Path.startOf text) (Path.pieces text.toList)
  else .error .blocked

/-- The text of a file. -/
def read (t : FileTree) (p : Path) : Except Absence String :=
  match t.find p with
  | .ok (.file text) => .ok text
  | .ok .directory => .error .blocked
  | .error e => .error e

/-! ## Changes -/

/-- Something can be put at the place: there is a directory for it, and no directory stands there. -/
def Takes (t : FileTree) (p : Path) : Prop :=
  standing t.entries (p.names t.home).dropLast = some .directory ∧ t.at? p ≠ some .directory

instance (t : FileTree) (p : Path) : Decidable (t.Takes p) := inferInstanceAs (Decidable (_ ∧ _))

theorem standing_insert_of_ne (entries : SortedMap (List String) FileEntry) {names names' : List String}
    (hne : names' ≠ names) (e : FileEntry) : standing (entries.insert names e) names' = standing entries names' := by
  rw [standing, SortedMap.get?_insert_of_ne _ hne, standing]

theorem Takes.founded {t : FileTree} {p : Path} (h : t.Takes p) (e : FileEntry) :
    Founded (t.entries.insert (p.names t.home) e) := by
  intro names hstands
  -- The place is no directory, so nothing is inside; in particular it is not the top.
  have hfree : ∀ names : List String, standing t.entries names = some .directory → names ≠ p.names t.home := by
    rintro names hdirectory rfl
    exact h.2 hdirectory
  have hparent : standing t.entries names.dropLast = some .directory := by
    by_cases heq : names = p.names t.home
    · rw [heq]
      exact h.1
    · rw [standing_insert_of_ne _ heq] at hstands
      exact t.founded names hstands
  rw [standing_insert_of_ne _ (hfree _ hparent)]
  exact hparent

/-- Puts something at a place that takes it. -/
def put (t : FileTree) (p : Path) (e : FileEntry) : FileTree :=
  if h : t.Takes p then { t with entries := t.entries.insert (p.names t.home) e, founded := h.founded e } else t

theorem standing_filter (entries : SortedMap (List String) FileEntry) (gone : List String → Bool)
    (names : List String) :
    standing (entries.filter fun k _ => !gone k) names =
      if gone names then fixed? names else standing entries names := by
  rw [standing, SortedMap.get?_filter, standing]
  cases entries.get? names with
  | none => rw [Option.filter_none, Option.or_none, ite_self]
  | some e =>
      rw [Option.filter_some]
      cases gone names with
      | true => exact Option.or_none
      | false => rfl

theorem founded_filter (t : FileTree) (gone : List String → Bool)
    (hgone : ∀ names, gone names.dropLast = true → gone names = true) :
    Founded (t.entries.filter fun k _ => !gone k) := by
  intro names hstands
  rw [standing_filter] at hstands ⊢
  by_cases hfixed : fixed? names = none
  · have hkept : ¬gone names = true := by
      intro h
      rw [if_pos h] at hstands
      exact hstands hfixed
    rw [if_neg hkept] at hstands
    rw [if_neg fun h => hkept (hgone names h)]
    exact t.founded names hstands
  · have hparent := fixed?_dropLast hfixed
    rw [standing_of_fixed (by simp [hparent]), hparent, ite_self]

/-- Drops a place and everything below it. -/
def drop (t : FileTree) (p : Path) : FileTree :=
  { t with
    entries := t.entries.filter fun k _ => !(p.names t.home).isPrefixOf k
    founded := t.founded_filter (p.names t.home).isPrefixOf fun names h =>
      List.isPrefixOf_iff_prefix.2 ((List.isPrefixOf_iff_prefix.1 h).trans names.dropLast_prefix) }

/-- Drops everything below a place. -/
def hollow (t : FileTree) (p : Path) : FileTree :=
  { t with
    entries := t.entries.filter fun k _ => !(p.names t.home).isPrefixOf k.dropLast
    founded := t.founded_filter (fun k => (p.names t.home).isPrefixOf k.dropLast) fun names h =>
      List.isPrefixOf_iff_prefix.2 ((List.isPrefixOf_iff_prefix.1 h).trans names.dropLast.dropLast_prefix) }

/-- What comes of clearing a place. -/
inductive Clearing where
  /-- Nothing was touched. -/
  | refused
  /-- Everything below the place is gone, but the place stays. -/
  | emptied (t : FileTree)
  /-- Nothing stands at the place or below. -/
  | gone (t : FileTree)

/-- Removes what stands at a place.  The start of a path and what stands of itself are only emptied. -/
def remove (t : FileTree) (p : Path) : Clearing :=
  if p.parts = [] ∨ fixed? (p.names t.home) ≠ none then .emptied (t.hollow p) else .gone (t.drop p)

/-- Removes a place and everything below it, if it is there.  The working directory cannot be named for that.  Where
there is no way to the place, it is looked for in its directory, if that exists. -/
def clear (t : FileTree) (p : Path) : Clearing :=
  if p = .here then .refused
  else
    match t.find p with
    | .ok _ => t.remove p
    | .error .missing => .gone t
    | .error .blocked =>
      match t.find p.parent with
      | .error .missing => .gone t
      | .ok .directory => if p.isShort && !p.text.toList.contains '\x00' then t.remove p else .refused
      | _ => .refused

/-- Makes the directories of a list of places, up to the first that cannot be made. -/
def makeEach (t : FileTree) : List Path → FileTree × Bool
  | [] => (t, true)
  | p :: ps =>
    match t.at? p with
    | some .directory => t.makeEach ps
    | some (.file _) => (t, false)
    | none =>
      if p.isShort && Path.isWritable p.text && t.Takes p then (t.put p .directory).makeEach ps else (t, false)

/-- Makes a directory and those above it. -/
def make (t : FileTree) (p : Path) : FileTree × Bool := t.makeEach p.trail

/-- Writes a file into a directory that exists. -/
def write? (t : FileTree) (p : Path) (text : String) : Option FileTree :=
  match t.find p.parent, t.find p with
  | .ok .directory, .ok (.file _) | .ok .directory, .error .missing =>
    if t.Takes p then some (t.put p (.file text)) else none
  | _, _ => none

/-- Writes a file, and makes its directory before. -/
def place (t : FileTree) (p : Path) (text : String) : FileTree :=
  let made := (t.make p.parent).1
  (made.write? p text).getD made

/-- The files below a place, by path. -/
def filesBelow (t : FileTree) (p : Path) : List (Path × String) :=
  t.entries.entries.filterMap fun (k, e) =>
    match e with
    | .file text =>
      if (p.names t.home).isPrefixOf k then
        some ({ p with parts := p.parts ++ k.drop (p.names t.home).length }, text)
      else none
    | .directory => none

end FileTree
end DoomPatch
