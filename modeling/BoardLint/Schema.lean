import BoardLint.Disk
import BoardLint.Findings
import BoardLint.Schema.Document

/-!
# Capability schemas

What the pins of a chip can do, with the instances of each interface under their numbers.
`Schema.ofDocument` converts the keys of a document; `Schema.load` reads the document of a path.
-/

namespace BoardLint

/-- The greatest number of a pin or of an instance. -/
def Schema.maxNumber : Nat := 0xFFFFFFFF

/-- An integer as the number of a pin or of an instance, if it is in range. -/
def Schema.number? (n : Int) : Option Nat :=
  if 0 ≤ n ∧ n ≤ maxNumber then some n.toNat else none

theorem Schema.number?_eq_some_iff {n : Int} {k : Nat} :
    number? n = some k ↔ n = k ∧ k ≤ maxNumber := by
  unfold number?
  split
  · rw [Option.some.injEq]
    omega
  · simp only [reduceCtorEq, false_iff]
    omega

/-- An interface of a chip. -/
structure Interface where
  instances : Std.TreeMap Nat Functions
  expected : Option ExpectedFunctions

/-- The functions of an instance, if the interface has an instance of this number. -/
def Interface.instance? (i : Interface) (number : Int) : Option Functions :=
  (Schema.number? number).bind (i.instances[·]?)

/-- What the pins of a chip can do. -/
structure Schema where
  pins : List Nat
  interfaces : Std.TreeMap String Interface

/-- Why there is no schema. -/
inductive SchemaError where
  /-- The document cannot be read. -/
  | unreadable (reason : ReadError)
  /-- The document is not JSON of the right form. -/
  | malformed (fault : Schema.Document.Fault)
  /-- A key of an interface is not the number of an instance. -/
  | instanceKey (interface key : String)
deriving DecidableEq, Repr

/-- The error in words. -/
def SchemaError.message : SchemaError → String
  | unreadable reason => "Failed to read capability schema: " ++ toString reason
  | malformed fault => "Malformed capability schema: " ++ fault.message
  | instanceKey interface key =>
    "Instance `" ++ key ++ "` of interface `" ++ interface ++ "` is not an integer"

namespace Schema

/-- The number that the key of an instance stands for: decimal digits behind an optional plus, with
white space around them. -/
def instanceNumber? (key : String) : Option Nat :=
  let digits :=
    match Text.trim key.toList with
    | '+' :: cs => cs
    | cs => cs
  (Numeral.natural? 10 digits).filter (· ≤ maxNumber)

/-- The instances of an interface, given with their keys in order. The last key of a number
counts. -/
def numberInstances (interface : String) :
    List (String × Functions) → Std.TreeMap Nat Functions →
      Except SchemaError (Std.TreeMap Nat Functions)
  | [], m => .ok m
  | (key, functions) :: rest, m =>
    match instanceNumber? key with
    | some n => numberInstances interface rest (m.insert n functions)
    | none => .error (.instanceKey interface key)

/-- The interfaces of a document, given in the order of their names. -/
def numberInterfaces : List (String × InterfaceEntry) → Std.TreeMap String Interface →
    Except SchemaError (Std.TreeMap String Interface)
  | [], m => .ok m
  | (name, entry) :: rest, m =>
    match numberInstances name entry.instances.toList ∅ with
    | .ok instances => numberInterfaces rest (m.insert name ⟨instances, entry.expected⟩)
    | .error e => .error e

/-- The schema of a document. -/
def ofDocument (d : Document) : Except SchemaError Schema :=
  (numberInterfaces d.interfaces.toList ∅).map fun interfaces => ⟨d.pins, interfaces⟩

/-- Where a fault is: at its line, or in the whole source if it has none. -/
def locate (source : Source) (fault : Document.Fault) : Location :=
  match fault.line with
  | 0 => .whole source
  | line => .atLine source (.ofNat line)

/-- The schema that a text writes. An error of the document that it gives concerns the whole
source. -/
def ofText (decode : Document.Reader) (source : Source) (text : String) :
    Except (Located SchemaError) Schema :=
  match decode text with
  | .error fault => .error ⟨.malformed fault, locate source fault⟩
  | .ok d => (ofDocument d).mapError fun e => ⟨e, .whole source⟩

/-- The schema at a path. -/
def load (decode : Document.Reader) (disk : Disk) (path : Path) :
    Except (Located SchemaError) Schema :=
  match disk.read path with
  | .error reason => .error ⟨.unreadable reason, .whole (.unread path)⟩
  | .ok text => ofText decode (.ofText path text) text

/-- Has the chip a pin of this number? -/
def allowsPin (s : Schema) (pin : Int) : Bool := (number? pin).any s.pins.contains

/-- The interface of this name. -/
def interface? (s : Schema) (name : String) : Option Interface := s.interfaces[name]?

/-- A name without the decimal digits at its end. -/
def withoutDigits (name : String) : String :=
  String.ofList (name.toList.reverse.dropWhile Char.isDigit).reverse

/-- The interface that a name in a define refers to, with its name in the schema. A define may
number an interface that the schema knows without a number. -/
def resolveInterface (s : Schema) (name : String) : Option (String × Interface) :=
  match s.interface? name with
  | some i => some (name, i)
  | none =>
    let base := withoutDigits name
    if base = "" ∨ base = name then none else (s.interface? base).map fun i => (base, i)

theorem allowsPin_iff {s : Schema} {pin : Int} :
    s.allowsPin pin = true ↔ ∃ n ∈ s.pins, n ≤ maxNumber ∧ pin = n := by
  simp only [allowsPin, Option.any_eq_true, number?_eq_some_iff, List.contains_iff_mem]
  constructor
  · rintro ⟨n, ⟨hp, hn⟩, hm⟩
    exact ⟨n, hm, hn, hp⟩
  · rintro ⟨n, hm, hn, hp⟩
    exact ⟨n, ⟨hp, hn⟩, hm⟩

end Schema

end BoardLint
