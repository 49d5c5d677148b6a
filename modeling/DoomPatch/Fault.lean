import DoomPatch.SortedMap

/-!
# Faults

What goes wrong is reported as a `Fault`: a code, a message, notes about the entity concerned, and the
fault that caused it.  A fault without a code of its own comes from outside or only adds context.

* `Code` — the class of a fault; `Code.fatal` tells whether it stops a run.
* `FaultOf ν` — faults whose notes are of type `ν`; `Fault` carries its notes itself.
* `wrap`, `wrapWithCode` — a fault with another one as its cause.  `wrap` keeps code and notes.
* `text`, `code`, `message`, `notes?` — what is reported.
-/

namespace DoomPatch

/-- The class of a fault, by its name. -/
structure Code where
  /-- The name in reports. -/
  name : String
deriving DecidableEq, Repr

namespace Code

/-- No fault. -/
def ok : Code := ⟨"OK"⟩

/-- The request itself is wrong. -/
def invalidArgument : Code := ⟨"INVALID_ARGUMENT"⟩

/-- What was asked for does not exist. -/
def notFound : Code := ⟨"NOT_FOUND"⟩

/-- A fixed capacity is exceeded. -/
def resourceExhausted : Code := ⟨"RESOURCE_EXHAUSTED"⟩

/-- The request does not fit the present state. -/
def failedPrecondition : Code := ⟨"FAILED_PRECONDITION"⟩

/-- A number is outside its range. -/
def outOfRange : Code := ⟨"OUT_OF_RANGE"⟩

/-- A name has no meaning here. -/
def unimplemented : Code := ⟨"UNIMPLEMENTED"⟩

/-- Something outside the request failed. -/
def internal : Code := ⟨"INTERNAL"⟩

/-- A service cannot be reached. -/
def unavailable : Code := ⟨"UNAVAILABLE"⟩

/-- Whether a run stops.  Range and look-up problems of single edits do not stop it. -/
def fatal (c : Code) : Bool := !(c = ok || c = outOfRange || c = unimplemented)

end Code

/-- The value of a note. -/
inductive Note where
  /-- A name or another text. -/
  | text (s : String)
  /-- A number. -/
  | number (n : Int)
  /-- Messages by field. -/
  | problems (fields : SortedMap String (List String))
deriving DecidableEq

/-- Notes by key. -/
abbrev Notes := SortedMap String Note

/-- A fault whose notes are of type `ν`. -/
inductive FaultOf (ν : Type) where
  /-- A fault of this program. -/
  | coded (code : Code) (message : String) (notes : ν)
  /-- A fault of this program with its cause. -/
  | wrapped (code : Code) (message : String) (notes : ν) (cause : FaultOf ν)
  /-- A fault from outside, of which only the text is known. -/
  | plain (text : String)
  /-- A fault with some context in front. -/
  | within (context : String) (cause : FaultOf ν)
deriving DecidableEq

namespace FaultOf

variable {ν : Type}

/-- The whole report. -/
def text : FaultOf ν → String
  | coded c m _ => c.name ++ ": " ++ m
  | wrapped c m _ cause => c.name ++ ": " ++ m ++ ": " ++ cause.text
  | plain t => t
  | within ctx cause => ctx ++ ": " ++ cause.text

/-- The outermost part that has a code: code, message and notes. -/
def head? : FaultOf ν → Option (Code × String × ν)
  | coded c m n => some (c, m, n)
  | wrapped c m n _ => some (c, m, n)
  | plain _ => none
  | within _ cause => cause.head?

/-- The code; a fault without one counts as internal. -/
def code (f : FaultOf ν) : Code := (f.head?.map (·.1)).getD Code.internal

/-- The message without the causes. -/
def message (f : FaultOf ν) : String := (f.head?.map (·.2.1)).getD f.text

/-- The notes of the outermost part that has a code. -/
def notes? (f : FaultOf ν) : Option ν := f.head?.map (·.2.2)

/-- Whether some part of the fault has the code. -/
def carries (code : Code) : FaultOf ν → Bool
  | coded c _ _ => c = code
  | wrapped c _ _ cause => c = code || cause.carries code
  | plain _ => false
  | within _ cause => cause.carries code

/-- A fault under a new message, with code and notes of the old one. -/
def wrap (none : ν) (f : FaultOf ν) (message : String) : FaultOf ν :=
  match f.head? with
  | some (c, _, n) => wrapped c message n f
  | .none => wrapped Code.internal message none f

/-- A fault under a new message and code, with given notes. -/
def wrapWithCode (f : FaultOf ν) (code : Code) (message : String) (notes : ν) : FaultOf ν :=
  wrapped code message notes f

/-- Replaces the notes of a fault that has a code itself. -/
def mapNotes (g : ν → ν) : FaultOf ν → FaultOf ν
  | coded c m n => coded c m (g n)
  | wrapped c m n cause => wrapped c m (g n) cause
  | f => f

end FaultOf

/-- A fault that carries its notes. -/
abbrev Fault := FaultOf Notes

namespace Fault

/-- A fault with a code and no notes. -/
def new (code : Code) (message : String) : Fault := .coded code message ∅

/-- Adds a note. -/
def note (f : Fault) (key : String) (value : Note) : Fault :=
  f.mapNotes fun n => n.insert key value

/-- Notes the entity that a fault concerns. -/
def about (f : Fault) (entity : String) (id : Int) : Fault :=
  (f.note "entity" (.text entity)).note "id" (.number id)

/-- A fault under a new message, with code and notes of the old one. -/
def under (f : Fault) (message : String) : Fault := FaultOf.wrap ∅ f message

/-- The notes to report. -/
def notes (f : Fault) : Notes := f.notes?.getD ∅

/-- A wrong request. -/
def invalid (message : String) : Fault := new Code.invalidArgument message

end Fault
end DoomPatch
