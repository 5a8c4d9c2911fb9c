import BoardLint.Path

/-!
# Chips

Two families of chip, of which the second has two variants. Every chip has a document in the SDK
that tells what its pins can do.
-/

namespace BoardLint

/-- A family of chips. -/
inductive Family where
  | rp2040
  | rp2350
deriving DecidableEq, Repr

namespace Family

/-- The token for the family in the names of defines. -/
def token : Family → String
  | rp2040 => "RP2040"
  | rp2350 => "RP2350"

/-- The other family. -/
def other : Family → Family
  | rp2040 => rp2350
  | rp2350 => rp2040

/-- The name of the platform that a build for the family sets. -/
def platform : Family → String
  | rp2040 => "rp2040"
  | rp2350 => "rp2350"

/-- The family of a platform. -/
def ofPlatform? (s : String) : Option Family := [rp2040, rp2350].find? (·.platform == s)

instance : ToString Family := ⟨token⟩

theorem ofPlatform?_eq_some_iff {s : String} {f : Family} :
    ofPlatform? s = some f ↔ f.platform = s := by
  constructor
  · intro h
    simpa using List.find?_some h
  · rintro rfl
    cases f <;> decide

end Family

/-- A chip. -/
inductive Chip where
  | rp2040
  | rp2350A
  | rp2350B
deriving DecidableEq, Repr

namespace Chip

/-- Every chip. -/
def all : List Chip := [rp2040, rp2350A, rp2350B]

/-- The family of a chip. -/
def family : Chip → Family
  | rp2040 => .rp2040
  | rp2350A | rp2350B => .rp2350

/-- The name of a chip. -/
def name : Chip → String
  | rp2040 => "RP2040"
  | rp2350A => "RP2350A"
  | rp2350B => "RP2350B"

instance : ToString Chip := ⟨name⟩

/-- The place of a chip's document in the SDK. -/
def document : Chip → Path
  | rp2040 => ⟨"src/rp2040/rp2040_interface_pins.json"⟩
  | rp2350A => ⟨"src/rp2350/rp2350a_interface_pins.json"⟩
  | rp2350B => ⟨"src/rp2350/rp2350b_interface_pins.json"⟩

/-- The path of a chip's document below the root of the SDK. -/
def schemaPath (c : Chip) (sdk : Path) : Path := sdk.join c.document

end Chip

end BoardLint
