import BoardLint.Board
import BoardLint.Text.Affix

/-!
# The defines of a board and its chip

Every define is checked against the capability schema of the chip: a pin has to be one of the chip,
the pin of a function one that can serve it, and an instance needs pins for its functions.

`PICO_DEFAULT_UART` names the instance of an interface that a board uses by default, and
`PICO_DEFAULT_UART_TX_PIN` the pin of one of its functions. Interfaces and functions are tokens:
capital letters and digits.

The checks of one define do not depend on those of another. Only afterwards a report that has been
made before is left out: an invalid instance is reported once, however many pins refer to it.
-/

namespace BoardLint.Audit

/-! ## Names of default pins -/

/-- How the name of a default starts. -/
def defaultStart : String := "PICO_DEFAULT_"

/-- How the name of a pin ends. -/
def pinEnd : String := "_PIN"

/-- Is the text one or more capital letters and digits? -/
def isToken (cs : List Char) : Bool := !cs.isEmpty && cs.all fun c => c.isUpper || c.isDigit

/-- Is it the name of a pin? -/
def isPinName (name : String) : Bool := Text.endsWith pinEnd name

/-- The interface and the function of a pin, from its name. -/
def functionPin? (name : String) : Option (String × String) := do
  let tail ← Text.dropStart? defaultStart.toList name.toList
  let body ← Text.dropEnd? pinEnd.toList tail
  match body.takeWhile (· != '_'), body.dropWhile (· != '_') with
  | interface, '_' :: function =>
    if isToken interface && isToken function then
      some (String.ofList interface, String.ofList function)
    else none
  | _, _ => none

/-- The interface of an instance, from its name. -/
def instance? (name : String) : Option String := do
  let interface ← Text.dropStart? defaultStart.toList name.toList
  if isToken interface then some (String.ofList interface) else none

/-- The name of the instance of an interface. -/
def instanceName (interface : String) : String := defaultStart ++ interface

/-- The name of the pin of a function of an instance. -/
def functionPinName (instanceName function : String) : String :=
  instanceName ++ "_" ++ function ++ pinEnd

/-! ## One define -/

/-- A header for one family has no defines for the other. -/
def foreignErrors (chip : Chip) (d : Define) : List (Located Issue) :=
  let other := chip.family.other
  if Text.occursIn other.token d.name then [⟨.foreignChip chip other d.name, d.location⟩] else []

/-- A pin is a number, and one that the chip has. -/
def pinErrors (chip : Chip) (schema : Schema) (d : Define) : List (Located Issue) :=
  match d.resolved with
  | none => [⟨.undefinedPin d.name, d.location⟩]
  | some (.text s) => [⟨.nonIntegerPin d.name s, d.location⟩]
  | some (.int pin) =>
    if schema.allowsPin pin then [] else [⟨.invalidPin d.name pin chip, d.location⟩]

/-- Can the pin serve the function? -/
def serves (pins : Std.TreeSet Nat) (pin : Int) : Bool := (Schema.number? pin).any pins.contains

/-- The interface that has no schema of its own. -/
def schemalessInterface : String := "WS2812"

/-- The instance that the value of a define stands for, with its number. -/
def instanceOf? (interface : Interface) (d : Define) : Option (Int × Functions) := do
  let number ← d.resolved.bind Value.int?
  let functions ← interface.instance? number
  some (number, functions)

/-- A function pin belongs to a defined instance, and can serve its function there. -/
def functionPinErrors (s : Symbols) (chip : Chip) (schema : Schema)
    (interface function : String) (d : Define) : List (Located Issue) :=
  if interface = schemalessInterface then []
  else
    match schema.resolveInterface interface with
    | none => [⟨.unknownInterface d.name interface chip, d.location⟩]
    | some (known, i) =>
      match s.lookup (instanceName interface) with
      | none => [⟨.missingInstance d.name (instanceName interface), d.location⟩]
      | some inst =>
        match instanceOf? i inst with
        | none => [⟨.invalidInstance (instanceName interface) inst.resolved, inst.location⟩]
        | some (number, functions) =>
          match functions[function]?, d.resolved with
          | none, _ => [⟨.invalidFunction d.name function (instanceName interface), d.location⟩]
          | some pins, some (.int pin) =>
            if serves pins pin then []
            else [⟨.invalidFunctionPin d.name pin function known number, d.location⟩]
          | some _, _ => []

/-- Each required function of an instance has a pin. -/
def requiredErrors (s : Symbols) (expected : ExpectedFunctions) (d : Define) :
    List (Located Issue) :=
  let pins := expected.required.map (functionPinName d.name)
  (pins.filter (!s.isDefined ·)).map fun pin => ⟨.missingFunctionPin d.name pin, d.location⟩

/-- One of the functions that stand for each other has a pin. -/
def oneOfErrors (s : Symbols) (expected : ExpectedFunctions) (d : Define) :
    List (Located Issue) :=
  let pins := expected.oneOf.map (functionPinName d.name)
  if pins.isEmpty || pins.any s.isDefined then []
  else [⟨.noFunctionPin d.name pins, d.location⟩]

/-- An instance is one of a known interface, and has the pins that it needs. -/
def instanceErrors (s : Symbols) (chip : Chip) (schema : Schema) (interface : String)
    (d : Define) : List (Located Issue) :=
  match schema.resolveInterface interface with
  | none => [⟨.unknownInterface d.name interface chip, d.location⟩]
  | some (_, i) =>
    match i.expected with
    | none => []
    | some expected => requiredErrors s expected d ++ oneOfErrors s expected d

/-- What is wrong with a define. -/
def defineErrors (s : Symbols) (chip : Chip) (schema : Schema) (d : Define) :
    List (Located Issue) :=
  foreignErrors chip d ++ (if isPinName d.name then pinErrors chip schema d else []) ++
    match functionPin? d.name, instance? d.name with
    | some (interface, function), _ => functionPinErrors s chip schema interface function d
    | none, some interface => instanceErrors s chip schema interface d
    | none, none => []

/-! ## All defines -/

/-- The errors less those that report an instance once more. -/
def reportOnce (reported : List String) : List (Located Issue) → List (Located Issue)
  | [] => []
  | e :: rest =>
    match e.cause with
    | .invalidInstance name _ =>
      if name ∈ reported then reportOnce reported rest
      else e :: reportOnce (name :: reported) rest
    | _ => e :: reportOnce reported rest

/-- Warnings for pins that are written more than once. The first define with a pin holds it; a
later one is warned of if it writes the pin itself and is no alias. -/
def sharedPins (held : List (Int × String)) : List Define → List (Located Issue)
  | [] => []
  | d :: rest =>
    match (if isPinName d.name then d.resolved else none) with
    | some (.int pin) =>
      match held.lookup pin with
      | none => sharedPins ((pin, d.name) :: held) rest
      | some first =>
        if d.value = d.resolved then
          ⟨.sharedPin first d.name pin, d.location⟩ :: sharedPins held rest
        else sharedPins held rest
    | _ => sharedPins held rest

/-- What is wrong with the defines of a board. -/
def definesFindings (s : Symbols) (chip : Chip) (schema : Schema) : Findings Issue where
  errors := reportOnce [] (s.defines.entries.flatMap (defineErrors s chip schema))
  warnings := sharedPins [] s.defines.entries

@[simp] theorem reportOnce_eq_nil_iff {es : List (Located Issue)} :
    reportOnce [] es = [] ↔ es = [] := by
  cases es with
  | nil => simp [reportOnce]
  | cons e es => unfold reportOnce; split <;> simp

end BoardLint.Audit
