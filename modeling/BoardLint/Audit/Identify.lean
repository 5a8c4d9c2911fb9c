import BoardLint.Board

/-!
# Which chip a board has

The setting of the platform tells the family, and a define the variant. Two more values have to be
given to the build and to the code alike, as a fallback setting and as a define.
-/

namespace BoardLint.Audit

/-- The setting for the platform. -/
def platformName : String := "PICO_PLATFORM"

/-- The size of the flash memory. -/
def flashName : String := "PICO_FLASH_SIZE_BYTES"

/-- Support for the older stepping of the second family. -/
def steppingName : String := "PICO_RP2350_A2_SUPPORTED"

/-- The define for the first variant of the second family. -/
def variantName : String := "PICO_RP2350A"

/-- The define that used to stand for the second variant. -/
def oldVariantName : String := "PICO_RP2350B"

/-- The value behind all aliases of a define. -/
def resolved? (s : Symbols) (name : String) : Option Value := (s.lookup name).bind Define.resolved

/-- The chip of a family. -/
def chipOf (s : Symbols) : Family → Chip
  | .rp2040 => .rp2040
  | .rp2350 => if resolved? s variantName = some (.int 1) then .rp2350A else .rp2350B

/-- The define that used to stand for the second variant is not needed. -/
def variantFindings (s : Symbols) : Family → Findings Issue
  | .rp2040 => ∅
  | .rp2350 =>
    match s.lookup variantName, s.lookup oldVariantName with
    | none, some d => .warning .deprecatedVariant d.location
    | _, _ => ∅

/-- A fallback setting and the define of its name go together and have the same value; either may
be required. -/
def companionFindings (b : Board) (name : String) (required : Bool) : Findings Issue :=
  match b.symbols.setting .fallback name, b.symbols.lookup name with
  | none, none =>
    .errorIf required (.missingFallback name) b.location ++
      .errorIf required (.missingDefine name) b.location
  | some setting, none => .error (.fallbackWithoutDefine name) setting.location
  | none, some define => .error (.defineWithoutFallback name) define.location
  | some setting, some define =>
    .errorIf (some setting.value ≠ define.resolved)
      (.settingMismatch name setting.value define.resolved) define.location

/-- Has the board to support the older stepping? -/
def needsStepping (b : Board) (family : Family) : Bool :=
  family == .rp2350 && b.fileName != fpgaHeader

/-- Where the older stepping has to be supported, the define for it is 1. -/
def steppingFindings (b : Board) (family : Family) : Findings Issue :=
  match b.symbols.lookup steppingName with
  | some d =>
    .errorIf (needsStepping b family ∧ d.resolved ≠ some (.int 1))
      (.steppingUnsupported (chipOf b.symbols family) d.resolved) d.location
  | none => ∅

/-- The family that the platform names, or what is wrong with the platform. -/
def familyOf (b : Board) : Except (Located Issue) Family :=
  match b.symbols.setting .fixed platformName with
  | none => .error ⟨.missingPlatform, b.location⟩
  | some platform =>
    match Family.ofPlatform? (toString platform.value) with
    | some family => .ok family
    | none => .error ⟨.unknownPlatform (toString platform.value), platform.location⟩

/-- The chip of a board, if it can be told, with what was found on the way. The board that stands
for the host counts as one of the first family. -/
def identify (b : Board) : Option Chip × Findings Issue :=
  if b.fileName = hostHeader then (some .rp2040, ∅)
  else
    match familyOf b with
    | .error e => (none, .error e.cause e.location)
    | .ok family =>
      (some (chipOf b.symbols family),
        variantFindings b.symbols family ++ companionFindings b flashName true ++
          companionFindings b steppingName (needsStepping b family) ++ steppingFindings b family)

end BoardLint.Audit
