import BoardLint.Audit.Defines
import BoardLint.Audit.Identify

/-!
# Auditing a board

An audit tells the chip of a board, reads the capability schema of that chip, and checks the
defines and the names that the header gives.
-/

namespace BoardLint

/-- Checks that are made on demand. -/
structure Flags where
  /-- Every warning counts as an error. -/
  denyWarnings : Bool := false
  /-- The header has to suggest how to include it. -/
  requireSuggestion : Bool := false
deriving DecidableEq, Repr, Inhabited

/-- How a header is checked. -/
structure Options where
  /-- The root of the SDK, where the capability schemas are. -/
  sdk : Path := ⟨"."⟩
  flags : Flags := {}
deriving DecidableEq, Repr, Inhabited

namespace Audit

/-- What a header for the host is expected to be detected by, which it need not be. -/
def noDetection : String := "NONE"

/-- A header gives the names that its path asks for. -/
def markersFindings (b : Board) (flags : Flags) : Findings Issue :=
  .errorIf (¬ b.markers.guard) (.missingGuard b.expected.guard) b.location ++
    .errorIf (¬ b.markers.detection ∧ b.expected.detection ≠ noDetection)
      (.missingDetection b.expected.detection) b.location ++
    .errorIf (flags.requireSuggestion ∧ ¬ b.markers.suggestion)
      (.missingSuggestion b.expected.includePath) b.location

end Audit

open Audit

/-- The chip of a board, with what was found before and what the audit adds to it. The audit fails
if the chip cannot be told or has no schema. -/
def audit (decode : Schema.Document.Reader) (disk : Disk) (options : Options) (b : Board)
    (found : Findings Issue) : Except (Failure Issue) (Chip × Findings Issue) :=
  match identify b with
  | (none, more) => .error (.rejected (found ++ more))
  | (some chip, more) =>
    match Schema.load decode disk (chip.schemaPath options.sdk) with
    | .error e => .error (.fatal (found ++ more) ⟨.schema e.cause, e.location⟩)
    | .ok schema =>
      .ok (chip, found ++ more ++ definesFindings b.symbols chip schema ++
        markersFindings b options.flags)

end BoardLint
