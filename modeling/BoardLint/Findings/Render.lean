import BoardLint.Findings
import BoardLint.Text.Printable

/-!
# Rendered findings

A finding is shown as its cause, its location, and the line it is about with a mark under the text
of that line. The column of numbers is as wide as the number of the line, and the mark is as wide
as the text in bytes.
-/

namespace BoardLint

/-- The same character, a number of times. -/
def repeated (n : Nat) (c : Char) : String := String.ofList (List.replicate n c)

namespace Location

/-- How many bytes of white space come before the text of a line, and how many bytes are to be
marked: at least one. -/
def markOf (line : String) : Nat × Nat :=
  let start := String.ofList (Text.trimStart line.toList)
  let text := String.ofList (Text.trim line.toList)
  (line.utf8ByteSize - start.utf8ByteSize, max 1 text.utf8ByteSize)

/-- The line of a location with a mark under it. -/
def excerpt (l : Location) : String :=
  match l.line with
  | none => ""
  | some n =>
    let margin := repeated (toString n).length ' '
    let marked :=
      match l.source.line? n with
      | none => ""
      | some line =>
        let (skip, width) := markOf line
        toString n ++ " | " ++ line ++ "\n" ++
          margin ++ " | " ++ repeated skip ' ' ++ repeated width '^' ++ "\n"
    margin ++ " |\n" ++ marked

end Location

variable {ε : Type} [ToString ε]

/-- A finding with its line, under a word for what it is. -/
def Located.render (label : String) (x : Located ε) : String :=
  label ++ ": " ++ toString x.cause ++ "\n --> " ++ toString x.location ++ "\n" ++
    x.location.excerpt ++ "\n"

/-- Findings of one sort, in order. -/
def renderAll (label : String) (xs : List (Located ε)) : String :=
  if xs.isEmpty then "No errors were reported\n"
  else String.join (xs.map (Located.render label))

namespace Findings

/-- The errors, in order. -/
def renderErrors (f : Findings ε) : String := renderAll "error" f.errors

/-- The warnings, in order. -/
def renderWarnings (f : Findings ε) : String := renderAll "warning" f.warnings

/-- The errors on one line, each with its location first. -/
def listErrors (f : Findings ε) : String :=
  Text.listing (f.errors.map fun x => toString x.location ++ ": " ++ toString x.cause)

end Findings

/-- The errors of a failed run, and what came of it. -/
def Failure.render (f : Failure ε) : String :=
  f.findings.renderErrors ++
    match f.severity with
    | .fatal => "Validation aborted"
    | .rejected =>
      "Validation failed with " ++ toString f.errors.length ++
        if f.errors.length == 1 then " error" else " errors"

end BoardLint
