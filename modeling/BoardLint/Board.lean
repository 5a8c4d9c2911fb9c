import BoardLint.ExpectedNames
import BoardLint.Symbols

/-!
# Boards

What is known of a board once its header and all that it includes have been read.
-/

namespace BoardLint

/-- Which of its own names a header gives. -/
structure Markers where
  /-- It has an include guard. -/
  guard : Bool := false
  /-- It has a board-detection define. -/
  detection : Bool := false
  /-- It suggests how to include it. -/
  suggestion : Bool := false
deriving DecidableEq, Repr, Inhabited

/-- A board, as its header describes it. -/
structure Board where
  /-- The root header. -/
  source : Source
  symbols : Symbols
  /-- The names that the path of the root header asks for. -/
  expected : ExpectedNames
  /-- The names that the root header gives. -/
  markers : Markers

namespace Board

/-- The file name of the root header. -/
def fileName (b : Board) : String := b.source.path.fileText

/-- The root header as a whole. -/
def location (b : Board) : Location := .whole b.source

end Board

/-- The header of the board that stands for the host: it has no chip of its own. -/
def hostHeader : String := "none.h"

/-- The header of the development board whose chip runs on a programmable gate array. -/
def fpgaHeader : String := "amethyst_fpga.h"

end BoardLint
