import DoomPatch.SortedMap
import DoomPatch.Time.Duration

/-!
# Hash servers

A server that keeps texts and tables of named texts by key, each for a limited time or for good.  Time is counted in
nanoseconds.

* `HashCommand`, `HashServer.exec` — the commands of clients that change a key.
* `HashServer.transact` — commands that are carried out together; the server may refuse.
* `HashServer.fetch?` — what a client reads; the server may refuse here too.
* `HashServer.put`, `HashServer.drop`, `HashServer.putText` — changes from the server's side.
* `HashServer.advance` — time passes.
-/

namespace DoomPatch

/-- What a key stands for. -/
inductive HashContent where
  /-- Named texts. -/
  | fields (values : SortedMap String String)
  /-- One text. -/
  | text (s : String)
deriving DecidableEq

/-- What a key stands for, and for how long. -/
structure HashItem where
  /-- What it stands for. -/
  content : HashContent
  /-- The time that is left, if it is limited. -/
  left : Option Int := none
deriving DecidableEq

/-- The item after some time, if its own is not up. -/
def HashItem.after? (item : HashItem) (time : Int) : Option HashItem :=
  match item.left with
  | none => some item
  | some n => if 0 < n - time then some { item with left := some (n - time) } else none

/-- A command of a client that changes a key. -/
inductive HashCommand where
  /-- Drops the key. -/
  | delete (key : String)
  /-- Gives the key named texts. -/
  | set (key : String) (values : SortedMap String String)
  /-- Limits the time of the key to some seconds from now. -/
  | expire (key : String) (seconds : Int)

/-- A server that keeps named texts by key. -/
structure HashServer where
  /-- The items by key. -/
  items : SortedMap String HashItem := ∅
  /-- Whether clients are refused. -/
  refusing : Bool := false

namespace HashServer

/-- The named texts of a key; a key without any has none. -/
def fields (s : HashServer) (key : String) : SortedMap String String :=
  match s.items.get? key with
  | some ⟨.fields values, _⟩ => values
  | _ => ∅

/-- Gives a key named texts.  Others that it has stay, and so does the time that is left. -/
def putAll (s : HashServer) (key : String) (values : List (String × String)) : HashServer :=
  let left := (s.items.get? key).bind (·.left)
  let values := values.foldl (fun m e => m.insert e.1 e.2) (s.fields key)
  { s with items := s.items.insert key ⟨.fields values, left⟩ }

/-- Carries out a command, and says whether it was in order.  A key that stands for one text gets no named ones; the
time of a key that is not there cannot be limited, and one without any time left vanishes. -/
def exec (s : HashServer) : HashCommand → HashServer × Bool
  | .delete key => ({ s with items := s.items.erase key }, true)
  | .set key values =>
    match s.items.get? key with
    | some ⟨.text _, _⟩ => (s, false)
    | _ => (s.putAll key values.entries, true)
  | .expire key seconds =>
    match s.items.get? key with
    | none => (s, true)
    | some item =>
      if 0 < seconds then
        ({ s with items := s.items.insert key { item with left := some (seconds * Duration.second) } }, true)
      else ({ s with items := s.items.erase key }, true)

/-- Carries out commands in order.  One that is not in order does not stop the others. -/
def execAll (s : HashServer) : List HashCommand → HashServer × Bool
  | [] => (s, true)
  | c :: cs =>
    let (s, fine) := s.exec c
    let (s, rest) := s.execAll cs
    (s, fine && rest)

/-- Carries out the commands of a client together, with nothing between them. -/
def transact (s : HashServer) (commands : List HashCommand) : HashServer × Bool :=
  if s.refusing then (s, false) else s.execAll commands

/-- The named texts of a key.  A key that stands for one text has no answer. -/
def fetch? (s : HashServer) (key : String) : Option (SortedMap String String) :=
  if s.refusing then none
  else
    match s.items.get? key with
    | some ⟨.text _, _⟩ => none
    | some ⟨.fields values, _⟩ => some values
    | none => some ∅

/-- Gives a key one named text. -/
def put (s : HashServer) (key field value : String) : HashServer := s.putAll key [(field, value)]

/-- Drops a named text; a key without any vanishes. -/
def drop (s : HashServer) (key field : String) : HashServer :=
  match s.items.get? key with
  | some ⟨.fields values, left⟩ =>
    let values := values.erase field
    { s with items := if values.isEmpty then s.items.erase key else s.items.insert key ⟨.fields values, left⟩ }
  | _ => s

/-- Gives a key one text; a key that stands for named texts keeps them. -/
def putText (s : HashServer) (key value : String) : HashServer :=
  match s.items.get? key with
  | some ⟨.fields _, _⟩ => s
  | _ => { s with items := s.items.insert key ⟨.text value, none⟩ }

/-- The time that a key has left; none if it is not limited. -/
def left (s : HashServer) (key : String) : Int := ((s.items.get? key).bind (·.left)).getD 0

/-- Lets time pass.  Keys whose time is up vanish. -/
def advance (s : HashServer) (time : Int) : HashServer :=
  { s with items := s.items.filterMap fun item => item.after? time }

end HashServer
end DoomPatch
