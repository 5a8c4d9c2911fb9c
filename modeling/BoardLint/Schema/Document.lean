import BoardLint.Json.Decode
import Std.Data.TreeMap
import Std.Data.TreeSet

/-!
# Capability documents

A capability document lists the pins of a chip, and for each interface its instances: which pins
can serve each function of an instance, and which functions a board has to give a pin. JSON has no
numbers for keys, so here the instances are still under the texts that stand for their numbers.
-/

namespace BoardLint

/-- The pins that can serve each function of an instance. -/
abbrev Functions := Std.TreeMap String (Std.TreeSet Nat)

/-- The functions of an interface that a board has to give a pin. -/
structure ExpectedFunctions where
  /-- All of these. -/
  required : List String := []
  /-- At least one of these, if there are any. -/
  oneOf : List String := []
deriving DecidableEq, Repr, Inhabited

namespace Schema

/-- An interface as a document gives it. -/
structure InterfaceEntry where
  instances : Std.TreeMap String Functions
  expected : Option ExpectedFunctions

/-- A capability document. -/
structure Document where
  pins : List Nat
  interfaces : Std.TreeMap String InterfaceEntry

namespace Document

open Json

/-- A field that is stored where `get` finds it. -/
def field {σ α : Type} (name : String) (get : σ → Option α) (set : σ → α → σ)
    (value : Decoder α) : RecordField σ where
  name := name
  isSet s := (get s).isSome
  read s := fun ts => do
    let (a, left) ← value ts
    .ok (set s a, left)

/-- An object as a map, in which the last value of a key counts. -/
def mapOf {α : Type} (value : Decoder α) : Decoder (Std.TreeMap String α) := fun ts => do
  let ((m, _), left) ← object (fun k m => member value (m.insert k ·)) ∅ ts
  .ok (m, left)

/-- The functions of an instance. -/
def functions : Decoder Functions := mapOf fun ts => do
  let (pins, left) ← list natural ts
  .ok (Std.TreeSet.ofList pins, left)

/-- The fields of expected functions that have been read. -/
structure ExpectedFields where
  required : Option (List String) := none
  oneOf : Option (List String) := none

/-- Expected functions: both fields may be left out. -/
def expectedFunctions : Decoder ExpectedFunctions := fun ts => do
  let ((s, _), left) ← record "expected functions" [
    field "required" ExpectedFields.required (fun s a => { s with required := some a }) (list text),
    field "one_of" ExpectedFields.oneOf (fun s a => { s with oneOf := some a }) (list text)] {} ts
  .ok (⟨s.required.getD [], s.oneOf.getD []⟩, left)

/-- The fields of an interface that have been read. -/
structure InterfaceFields where
  instances : Option (Std.TreeMap String Functions) := none
  expected : Option (Option ExpectedFunctions) := none

/-- An interface: the expected functions may be left out. -/
def interfaceEntry : Decoder InterfaceEntry := fun ts => do
  let ((s, closing), left) ← record "an interface" [
    field "instances" InterfaceFields.instances (fun s a => { s with instances := some a })
      (mapOf functions),
    field "expected_functions" InterfaceFields.expected (fun s a => { s with expected := some a })
      (optional expectedFunctions)] {} ts
  .ok (⟨← required "instances" closing s.instances, s.expected.getD none⟩, left)

/-- The fields of a document that have been read. -/
structure DocumentFields where
  pins : Option (List Nat) := none
  interfaces : Option (Std.TreeMap String InterfaceEntry) := none

/-- A document: both fields have to be given. -/
def document : Decoder Document := fun ts => do
  let ((s, closing), left) ← record "a capability document" [
    field "pins" DocumentFields.pins (fun s a => { s with pins := some a }) (list natural),
    field "interfaces" DocumentFields.interfaces (fun s a => { s with interfaces := some a })
      (mapOf interfaceEntry)] {} ts
  .ok (⟨← required "pins" closing s.pins, ← required "interfaces" closing s.interfaces⟩, left)

/-- Why a text is no document. -/
structure Fault where
  /-- The number of a line, or zero where the fault is at none. -/
  line : Nat
  message : String
deriving DecidableEq, Repr

/-- A reader of documents. What comes of a document is the same whichever reader gives it. -/
abbrev Reader := String → Except Fault Document

/-- The document that a text writes. -/
def ofText : Reader := fun text =>
  (decode document text).mapError fun fault => ⟨fault.line, toString fault⟩

end Document

end Schema

end BoardLint
