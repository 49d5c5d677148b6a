import DoomPatch.Yaml.Value

/-!
# YAML documents

A document is a tree of scalars, sequences and mappings.  An alias repeats a node that has a name.  A mapping
may take over entries of other mappings: those under its merge key, where its own entries come first.

* `Node.number?`, `Node.string?` — the number or text that a scalar stands for, if it is not null.
* `Node.items?` — the items of a sequence.
* `Node.layers?` — the entries of a mapping, followed by those of the mappings it takes over.
* `Node.fields?` — the values of a mapping by the names of their keys.
-/

namespace DoomPatch
namespace Yaml

/-- A node of a document. -/
inductive Node where
  /-- Its tag, its text, and whether it was written without quotes. -/
  | scalar (tag : Option String) (text : String) (plain : Bool)
  /-- A list. -/
  | sequence (tag : Option String) (items : List Node)
  /-- Pairs of keys and values in the order they were written. -/
  | mapping (tag : Option String) (entries : List (Node × Node))
  /-- Another node by its name. -/
  | alias (name : String) (target : Node)
  /-- A node around this one by its name. -/
  | loop (name : String)

namespace Node

/-- The empty node. -/
def null : Node := .scalar none "" true

/-- What a scalar stands for, also by an alias. -/
def value? : Node → Option Value
  | .scalar tag text plain => Value.read? tag text plain
  | .alias _ target => target.value?
  | _ => none

/-- The text of a scalar as it was written. -/
def source : Node → String
  | .scalar _ text _ => text
  | .alias _ target => target.source
  | _ => ""

/-- Whether a node is null. -/
def isNull (n : Node) : Bool := n.value? == some .null

/-- The number that a scalar stands for, unless it is null. -/
def number? (n : Node) : Option (Option Int) :=
  n.value?.bind fun v => if v = .null then some none else v.word?.map some

/-- The text that a scalar stands for, unless it is null.  Numbers and the like stand for how they are
written. -/
def string? (n : Node) : Option (Option String) :=
  n.value?.map fun
    | .null => none
    | .text s => some s
    | _ => some n.source

/-- The items of a sequence; null has none. -/
def items? : Node → Option (List Node)
  | .sequence _ items => some items
  | .alias _ target => target.items?
  | n => if n.isNull then some [] else none

/-- Whether a tag says that a node is null. -/
def saysNull : Node → Bool
  | .scalar tag _ _ | .sequence tag _ | .mapping tag _ => tag == some "!!null"
  | .alias _ target => target.saysNull
  | .loop _ => false

/-! ### Mappings -/

/-- What tells a key from others: its kind and its text or name. -/
def label : Node → Nat × String
  | .scalar _ text _ => (0, text)
  | .sequence _ _ => (1, "")
  | .mapping _ _ => (2, "")
  | .alias name _ | .loop name => (3, name)

/-- Whether a key is the merge key. -/
def isMerge : Node → Bool
  | .scalar none "<<" plain => plain
  | .scalar (some tag) "<<" _ => tag == "!!merge"
  | _ => false

/-- The entries of one mapping. -/
abbrev Layer := List (Node × Node)

/-- Puts the entries of a mapping, without the merge key, above other layers.  No key may occur twice. -/
def stack? (entries : Layer) (below : Option (List Layer)) : Option (List Layer) :=
  if (entries.map fun e => e.1.label).Nodup then
    below.map fun below => (entries.filter fun e => !e.1.isMerge) :: below
  else none

mutual

/-- The entries of a mapping, followed by those of the mappings it takes over. -/
def layers? : Node → Option (List Layer)
  | .mapping _ entries => stack? entries (mergedLayers? entries)
  | .alias _ target => target.layers?
  | _ => none

/-- The layers that some entries take over. -/
def mergedLayers? : List (Node × Node) → Option (List Layer)
  | [] => some []
  | (key, value) :: rest =>
    if key.isMerge then value.sourceLayers? else mergedLayers? rest

/-- The layers of what stands under the merge key: a mapping or a list of mappings. -/
def sourceLayers? : Node → Option (List Layer)
  | .sequence _ items => itemLayers? items
  | .alias _ (.mapping _ entries) | .mapping _ entries => stack? entries (mergedLayers? entries)
  | _ => none

/-- The layers of some mappings. -/
def itemLayers? : List Node → Option (List Layer)
  | [] => some []
  | n :: rest => n.layers?.bind fun above => (itemLayers? rest).map fun below => above ++ below

end

/-- The values of a layer by the names of their keys.  A null key is passed over. -/
def named? (layer : Layer) : Option (List (String × Node)) :=
  let read := List.mapM (fun e : Node × Node => e.1.string?.map fun name => name.map (·, e.2)) layer
  read.map (·.filterMap id)

/-- Without the values whose names are taken, or occur before. -/
def fresh (taken : List String) : List (String × Node) → List (String × Node)
  | [] => []
  | e :: rest => if taken.contains e.1 then fresh taken rest else e :: fresh (e.1 :: taken) rest

/-- Takes over the values of layers under the names that are not taken.  These have to be known. -/
def takeOver? (known taken : List String) : List Layer → Option (List (String × Node))
  | [] => some []
  | layer :: rest =>
    (named? layer).bind fun fields =>
      let new := fresh taken fields
      let names := new.map (·.1)
      if names.all known.contains then
        (takeOver? known (names ++ taken) rest).map fun more => new ++ more
      else none

/-- The values of a mapping by the names of their keys.  Only known names are taken, and none twice. -/
def fields? (known : List String) (n : Node) : Option (List (String × Node)) :=
  n.layers?.bind fun
    | [] => none
    | own :: below =>
      (named? own).bind fun fields =>
        let names := fields.map (·.1)
        if names.Nodup ∧ names.all known.contains then
          (takeOver? known ("<<" :: names) below).map fun more => fields ++ more
        else none

end Node
end Yaml
end DoomPatch
