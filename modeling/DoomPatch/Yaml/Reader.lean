import DoomPatch.Yaml.Node
import DoomPatch.Yaml.Token

/-!
# Reading YAML documents

The nodes of a document are put together from its tokens.  Of a stream of documents the first one is read;
what follows it is looked at only as far as its end cannot be known otherwise.

* `node?` — a node with its anchor and its tag.
* `items?`, `pairs?` — block collections; `flowItems?`, `flowPairs?` — flow collections.
* `read?` — the first document of a text.
-/

namespace DoomPatch
namespace Yaml

/-- What an anchor stands for. -/
inductive Anchored where
  /-- A collection that is not complete; it is told by the number of its first token. -/
  | started (token : Nat)
  /-- A node. -/
  | complete (node : Node)

/-- Tokens that are put together. -/
structure Reader where
  /-- All tokens. -/
  tokens : Tokens
  /-- How many were read. -/
  position : Nat := 0
  /-- The tokens from there on. -/
  rest : List Token
  /-- What the anchors stand for, the latest one first. -/
  anchors : List (String × Anchored) := []
  /-- The shorthands for tags. -/
  shorthands : List (String × String) := []

namespace Reader

/-- The next token, if it can be known. -/
def peek? (r : Reader) : Option Token := if r.tokens.visible r.position then r.rest.head? else none

/-- Goes on to the next token. -/
def advance (r : Reader) : Reader := { r with position := r.position + 1, rest := r.rest.drop 1 }

/-! ### Anchors and tags -/

/-- Names a node. -/
def name (r : Reader) (anchor : Option String) (a : Anchored) : Reader :=
  match anchor with
  | none => r
  | some name => { r with anchors := (name, a) :: r.anchors }

/-- Completes the collection that started with a token. -/
def complete (r : Reader) (anchor : Option String) (token : Nat) (node : Node) : Reader :=
  match anchor with
  | none => r
  | some _ =>
    { r with
      anchors := r.anchors.map fun e =>
        match e.2 with
        | .started t => if t = token then (e.1, .complete node) else e
        | .complete _ => e }

/-- The node behind an alias. -/
def aliased? (r : Reader) (name : String) : Option Node :=
  (r.anchors.lookup name).map fun
    | .started _ => .loop name
    | .complete node => .alias name node

/-- Reads an anchor, if there is one. -/
def anchor (r : Reader) : Option String × Reader :=
  match r.peek? with
  | some (.anchor name) => (some name, r.advance)
  | _ => (none, r)

/-- Reads a tag, if there is one: its handle and the rest of it. -/
def tag (r : Reader) : Option (String × String) × Reader :=
  match r.peek? with
  | some (.tag handle suffix) => (some (handle, suffix), r.advance)
  | _ => (none, r)

/-- Reads an anchor and a tag in either order. -/
def properties (r : Reader) : Option String × Option (String × String) × Reader :=
  match r.peek? with
  | some (.tag _ _) =>
    let (t, r) := r.tag
    let (a, r) := r.anchor
    (a, t, r)
  | _ =>
    let (a, r) := r.anchor
    let (t, r) := r.tag
    (a, t, r)

/-- The long form of the tags of the language itself. -/
def languageStem : String := "tag:yaml.org,2002:"

/-- The short form of a tag.  The mark alone is no tag. -/
def shortTag (full : String) : Option String :=
  if full = "!" then none
  else if full.startsWith languageStem then some ("!!" ++ full.drop languageStem.length)
  else some full

/-- The tag that a handle and a suffix mean. -/
def fullTag? (r : Reader) : Option (String × String) → Option String
  | none => some ""
  | some (handle, suffix) =>
    if handle = "" then some suffix
    else ((r.shorthands.lookup handle).map fun stem => stem ++ suffix).filter (· != "")

/-! ### Nodes -/

mutual

/-- Reads a node.  Block collections may start in blocks only; a sequence in the column of the mapping around
it has no token of its own. -/
def node? (inBlock flush : Bool) : Nat → Reader → Option (Node × Reader)
  | 0, _ => none
  | fuel + 1, r =>
    match r.peek? with
    | none => none
    | some (.alias name) => (r.aliased? name).map fun n => (n, r.advance)
    | some _ =>
      let (anchor, tagged, r) := r.properties
      (r.fullTag? tagged).bind fun full =>
        let tag := if full = "" then none else shortTag full
        let start := r.position
        let begun := r.name anchor (.started start)
        let sequence := fun (items : List Node) (r : Reader) =>
          let n := Node.sequence tag items
          (n, r.complete anchor start n)
        let mapping := fun (pairs : List (Node × Node)) (r : Reader) =>
          let n := Node.mapping tag pairs
          (n, r.complete anchor start n)
        let scalar := fun (text : String) (plain : Bool) (r : Reader) =>
          let n := Node.scalar tag text plain
          (n, r.name anchor (.complete n))
        let empty := if anchor.isSome || full != "" then some (scalar "" true r) else none
        match r.peek? with
        | none => none
        | some (.scalar text plain) => some (scalar text plain r.advance)
        | some .item => if flush then (flushItems? fuel [] begun).map fun (ns, r) => sequence ns r else empty
        | some .openSequence => (flowItems? true fuel [] begun.advance).map fun (ns, r) => sequence ns r
        | some .openMapping => (flowPairs? true fuel [] begun.advance).map fun (ps, r) => mapping ps r
        | some .sequenceStart =>
          if inBlock then (items? fuel [] begun.advance).map fun (ns, r) => sequence ns r else empty
        | some .mappingStart =>
          if inBlock then (pairs? fuel [] begun.advance).map fun (ps, r) => mapping ps r else empty
        | some _ => empty

/-- Reads the items of a block sequence.  `done` are those before, the last one first. -/
def items? : Nat → List Node → Reader → Option (List Node × Reader)
  | 0, _, _ => none
  | fuel + 1, done, r =>
    match r.peek? with
    | some .blockEnd => some (done.reverse, r.advance)
    | some .item =>
      let r := r.advance
      match r.peek? with
      | none => none
      | some .item | some .blockEnd => items? fuel (.null :: done) r
      | some _ =>
        match node? true false fuel r with
        | some (n, r) => items? fuel (n :: done) r
        | none => none
    | _ => none

/-- Reads the items of a block sequence in the column of the mapping around it. -/
def flushItems? : Nat → List Node → Reader → Option (List Node × Reader)
  | 0, _, _ => none
  | fuel + 1, done, r =>
    match r.peek? with
    | none => none
    | some .item =>
      let r := r.advance
      match r.peek? with
      | none => none
      | some .item | some .key | some .value | some .blockEnd => flushItems? fuel (.null :: done) r
      | some _ =>
        match node? true false fuel r with
        | some (n, r) => flushItems? fuel (n :: done) r
        | none => none
    | some _ => some (done.reverse, r)

/-- Reads a key or a value of a block mapping, which may be missing. -/
def part? : Nat → Reader → Option (Node × Reader)
  | 0, _ => none
  | fuel + 1, r =>
    match r.peek? with
    | none => none
    | some .key | some .value | some .blockEnd => some (.null, r)
    | some _ => node? true true fuel r

/-- Reads the pairs of a block mapping. -/
def pairs? : Nat → List (Node × Node) → Reader → Option (List (Node × Node) × Reader)
  | 0, _, _ => none
  | fuel + 1, done, r =>
    match r.peek? with
    | some .blockEnd => some (done.reverse, r.advance)
    | some .key =>
      match part? fuel r.advance with
      | none => none
      | some (key, r) =>
        match r.peek? with
        | none => none
        | some .value =>
          match part? fuel r.advance with
          | some (value, r) => pairs? fuel ((key, value) :: done) r
          | none => none
        | some _ => pairs? fuel ((key, .null) :: done) r
    | _ => none

/-- Reads the items of a flow sequence.  Behind the first one a comma stands before each. -/
def flowItems? (first : Bool) : Nat → List Node → Reader → Option (List Node × Reader)
  | 0, _, _ => none
  | fuel + 1, done, r =>
    match r.peek? with
    | none => none
    | some .closeSequence => some (done.reverse, r.advance)
    | some t =>
      if !first && t != .comma then none
      else
        let r := if first then r else r.advance
        match r.peek? with
        | none => none
        | some .closeSequence => some (done.reverse, r.advance)
        | some .key =>
          match flowPair? fuel r.advance with
          | some (n, r) => flowItems? false fuel (n :: done) r
          | none => none
        | some _ =>
          match node? false false fuel r with
          | some (n, r) => flowItems? false fuel (n :: done) r
          | none => none

/-- Reads a single pair among the items of a flow sequence, behind its key mark. -/
def flowPair? : Nat → Reader → Option (Node × Reader)
  | 0, _ => none
  | fuel + 1, r =>
    let key : Option (Node × Reader) :=
      match r.peek? with
      | none => none
      | some .value | some .comma | some .closeSequence => some (.null, r.advance)
      | some _ => node? false false fuel r
    match key with
    | none => none
    | some (key, r) =>
      match r.peek? with
      | none => none
      | some .value =>
        let r := r.advance
        match r.peek? with
        | none => none
        | some .comma | some .closeSequence => some (.mapping none [(key, .null)], r)
        | some _ => (node? false false fuel r).map fun (value, r) => (.mapping none [(key, value)], r)
      | some _ => some (.mapping none [(key, .null)], r)

/-- Reads the pairs of a flow mapping.  Behind the first one a comma stands before each. -/
def flowPairs? (first : Bool) : Nat → List (Node × Node) → Reader → Option (List (Node × Node) × Reader)
  | 0, _, _ => none
  | fuel + 1, done, r =>
    match r.peek? with
    | none => none
    | some .closeMapping => some (done.reverse, r.advance)
    | some t =>
      if !first && t != .comma then none
      else
        let r := if first then r else r.advance
        match r.peek? with
        | none => none
        | some .closeMapping => some (done.reverse, r.advance)
        | some .key =>
          let r := r.advance
          let key : Option (Node × Reader) :=
            match r.peek? with
            | none => none
            | some .value | some .comma | some .closeMapping => some (.null, r)
            | some _ => node? false false fuel r
          match key with
          | none => none
          | some (key, r) =>
            match r.peek? with
            | none => none
            | some .value =>
              let r := r.advance
              match r.peek? with
              | none => none
              | some .comma | some .closeMapping => flowPairs? false fuel ((key, .null) :: done) r
              | some _ =>
                match node? false false fuel r with
                | some (value, r) => flowPairs? false fuel ((key, value) :: done) r
                | none => none
            | some _ => flowPairs? false fuel ((key, .null) :: done) r
        | some _ =>
          match node? false false fuel r with
          | some (key, r) => flowPairs? false fuel ((key, .null) :: done) r
          | none => none

end

/-! ### Documents -/

/-- The shorthands that need no directive. -/
def defaultShorthands : List (String × String) := [("!", "!"), ("!!", languageStem)]

/-- Reads the directives in front of a document.  The version may be named once, and is 1.1; a shorthand may
be set once. -/
def directives? (versioned : Bool) : Nat → Reader → Option Reader
  | 0, _ => none
  | fuel + 1, r =>
    match r.peek? with
    | none => none
    | some (.version major minor) =>
      if versioned || major != 1 || minor != 1 then none else directives? true fuel r.advance
    | some (.shorthand handle stem) =>
      if (r.shorthands.lookup handle).isSome then none
      else directives? versioned fuel { r.advance with shorthands := (handle, stem) :: r.shorthands }
    | some _ => some { r with shorthands := r.shorthands ++ defaultShorthands }

/-- Reads the node of a document; behind a document mark it may be missing. -/
def content? (fuel : Nat) (r : Reader) : Option (Node × Reader) :=
  match r.peek? with
  | none => none
  | some (.version _ _) | some (.shorthand _ _) | some .documentStart | some .documentEnd | some .streamEnd =>
    some (.null, r)
  | some _ => node? true false fuel r

/-- Reads the first document.  There may be none. -/
def document? (fuel : Nat) (r : Reader) : Option (Node × Reader) :=
  match r.peek? with
  | none => none
  | some .streamEnd => some (.null, r)
  | some (.version _ _) | some (.shorthand _ _) | some .documentStart =>
    (directives? false fuel r).bind fun r =>
      if r.peek? = some .documentStart then content? fuel r.advance else none
  | some _ => node? true false fuel { r with shorthands := defaultShorthands }

end Reader

/-- Reads the first document of a text.  The token behind it has to be known. -/
def read? (text : String) : Option Node :=
  let tokens := Tokens.ofText text
  let start : Reader := { tokens, rest := tokens.list }
  (start.document? (4 * tokens.list.length + 8)).bind fun (n, r) => r.peek?.map fun _ => n

end Yaml
end DoomPatch
