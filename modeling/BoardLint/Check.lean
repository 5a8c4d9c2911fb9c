import BoardLint.Audit
import BoardLint.Scan

/-!
# Checking a header

A check scans a header and audits its board. It succeeds with the chip of the board and with
warnings, or fails with all that was found.
-/

namespace BoardLint

/-- What comes of a header without errors. -/
structure Report where
  chip : Chip
  warnings : List (Located Issue)
deriving DecidableEq

/-- The outcome of an audit that could be made: warnings may be denied, and errors reject the
header. -/
def conclude (flags : Flags) (chip : Chip) (found : Findings Issue) :
    Except (Failure Issue) Report :=
  let found := if flags.denyWarnings then found.denyWarnings else found
  if found.errors.isEmpty then .ok ⟨chip, found.warnings⟩ else .error (.rejected found)

/-- Checks the header at a path. -/
def check (decode : Schema.Document.Reader) (disk : Disk) (header : Path) (options : Options) :
    Except (Failure Issue) Report :=
  match scan disk header with
  | .error halt => .error (.fatal halt.state.findings halt.cause)
  | .ok (b, found) =>
    match audit decode disk options b found with
    | .error failure => .error failure
    | .ok (chip, found) => conclude options.flags chip found

end BoardLint
