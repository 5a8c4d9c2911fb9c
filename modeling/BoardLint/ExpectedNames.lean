import BoardLint.Path
import BoardLint.Text.Affix
import BoardLint.Text.Case
import BoardLint.Text.Word

/-!
# Expected names

The names that a header has to use for itself follow from its path: how others include it, its
include guard and its board-detection define.
-/

namespace BoardLint

/-- The names that follow from the path of a header. -/
structure ExpectedNames where
  /-- The path by which other headers include this one. -/
  includePath : String
  /-- The name of the include guard. -/
  guard : String
  /-- The name of the board-detection define, or an end of it. -/
  detection : String
deriving DecidableEq, Repr

namespace ExpectedNames

/-- A text as part of the name of a macro: in upper case, with an underscore for every character
that is not one of a word. -/
def macroName (cs : List Char) : List Char :=
  (Text.upper cs).map fun c => if Text.isWordChar c then c else '_'

/-- The directory that holds the file, and the file. -/
def includePathOf (p : Path) : String :=
  match p.parent?.bind Path.fileName? with
  | some directory => directory.text ++ "/" ++ p.fileText
  | none => p.fileText

/-- The file name in upper case, without its ending. -/
def stem (p : Path) : List Char :=
  let name := Text.upper p.fileText.toList
  (Text.dropEnd? ['.', 'H'] name).getD name

/-- The names that follow from a path. -/
def ofPath (p : Path) : ExpectedNames where
  includePath := includePathOf p
  guard := "_" ++ String.ofList (macroName (includePathOf p).toList)
  detection := String.ofList (macroName (stem p))

/-- Has the name the form of an include guard, `_BOARDS_…_H` with something in between? -/
def isGuardShaped (name : String) : Bool :=
  name.toList.length > "_BOARDS_".length + "_H".length &&
    Text.startsWith "_BOARDS_" name && Text.endsWith "_H" name

/-- The form of an include guard: a text with something in it between two fixed ones. -/
def GuardShaped (name : String) : Prop := ∃ w, w ≠ "" ∧ name = "_BOARDS_" ++ w ++ "_H"

theorem isGuardShaped_iff {name : String} : isGuardShaped name = true ↔ GuardShaped name := by
  have hstart : "_BOARDS_".toList.length = "_BOARDS_".length := rfl
  have hend : "_H".toList.length = "_H".length := rfl
  simp only [isGuardShaped, Text.startsWith, Text.endsWith, Bool.and_eq_true, decide_eq_true_eq,
    List.isPrefixOf_iff_prefix, List.isSuffixOf_iff_suffix]
  constructor
  · rintro ⟨⟨hlength, hprefix⟩, init, hinit⟩
    have hsum := congrArg List.length hinit
    rw [List.length_append] at hsum
    -- the two fixed texts do not overlap, since the name is longer than both together
    have hlt : "_BOARDS_".toList.length < init.length := by omega
    obtain ⟨w, rfl⟩ := List.prefix_of_prefix_length_le hprefix ⟨_, hinit⟩ (Nat.le_of_lt hlt)
    refine ⟨String.ofList w, ?_, ?_⟩
    · intro hw
      obtain rfl : w = [] := by simpa using congrArg String.toList hw
      rw [List.append_nil] at hlt
      exact Nat.lt_irrefl _ hlt
    · apply String.toList_injective
      have hofList : (String.ofList w).toList = w := String.toList_ofList
      rw [← hinit, String.toList_append, String.toList_append, hofList]
  · rintro ⟨w, hw, rfl⟩
    have hne : w.toList ≠ [] := fun h => hw (String.toList_injective h)
    have hpos := List.length_pos_iff.2 hne
    simp only [String.toList_append, List.length_append]
    refine ⟨⟨by omega, ?_⟩, List.suffix_append ..⟩
    rw [List.append_assoc]
    exact List.prefix_append ..

@[simp] theorem macroName_nil : macroName [] = [] := rfl

@[simp] theorem macroName_append (a b : List Char) :
    macroName (a ++ b) = macroName a ++ macroName b := by
  simp [macroName]

end ExpectedNames

end BoardLint
