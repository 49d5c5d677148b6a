import DoomPatch.Fault
import DoomPatch.Text.Blank

/-!
# Validation

Problems found while checking a block of settings, collected by field.  A report lists the fields in
ascending order and the messages of a field in the order they were found.
-/

namespace DoomPatch

/-- Messages by field. -/
structure Problems where
  /-- The messages of each field that has any, oldest first. -/
  fields : SortedMap String (List String) := ∅
deriving DecidableEq

namespace Problems

/-- No problem. -/
def none : Problems := {}

/-- Records a message for a field. -/
def add (p : Problems) (field message : String) : Problems :=
  ⟨p.fields.insert field ((p.fields.get? field).getD [] ++ [message])⟩

/-- Records a field that was left out. -/
def missing (p : Problems) (field : String) : Problems := p.add field "is required"

/-- Records a message if a test fails. -/
def check (p : Problems) (holds : Bool) (field message : String) : Problems :=
  if holds then p else p.add field message

/-- Asks for a text that is more than white space. -/
def required (p : Problems) (field value : String) : Problems :=
  p.check (Text.trim value != "") field "is required"

/-- Asks for a number between two others, ends included. -/
def range (p : Problems) (field : String) (value low high : Int) : Problems :=
  p.check (low ≤ value && value ≤ high) field s!"must be between {low} and {high}"

/-- Asks for one of several texts. -/
def oneOf (p : Problems) (field value : String) (allowed : List String) : Problems :=
  p.check (allowed.contains value) field ("must be one of: " ++ ", ".intercalate allowed)

/-- Whether there is a problem. -/
def any (p : Problems) : Bool := !p.fields.isEmpty

/-- The report. -/
def text (p : Problems) : String :=
  if p.any then
    "validation failed: " ++
      "; ".intercalate (p.fields.entries.map fun e => e.1 ++ ": " ++ ", ".intercalate e.2)
  else "validation failed"

/-- The fault of the problems, if there are any. -/
def fault? (p : Problems) : Option Fault :=
  if p.any then some ((Fault.invalid p.text).note "validation_errors" (.problems p.fields)) else .none

/-- A value that stands if there is no problem. -/
def orElse {α : Type} (p : Problems) (a : α) : Except Fault α :=
  match p.fault? with
  | some f => .error f
  | .none => .ok a

end Problems
end DoomPatch
