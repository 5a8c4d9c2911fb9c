/-!
# Character tables and white space

A character property is a table: an ascending list of ranges of code points, each with a step, so
that an alternating run (every second letter of an alphabet with case) is one entry. The first such
property is the class White_Space of Unicode, by which white space at the ends of a text is removed.
-/

namespace BoardLint.Text

/-! ## Tables of code points -/

/-- The code points `first, first + step, …` up to `last`. -/
structure CodeRange where
  first : Nat
  last : Nat
  step : Nat

/-- Is the code point in the range? -/
def CodeRange.contains (r : CodeRange) (n : Nat) : Bool :=
  r.first ≤ n && n ≤ r.last && (n - r.first) % r.step == 0

/-- Ranges in ascending order, none of which overlaps the next. -/
abbrev CodeTable := List CodeRange

/-- Is the code point in one of the ranges? The order ends the search early. -/
def CodeTable.contains : CodeTable → Nat → Bool
  | [], _ => false
  | r :: rest, n => if n < r.first then false else r.contains n || CodeTable.contains rest n

@[simp] theorem CodeTable.contains_nil (n : Nat) : CodeTable.contains [] n = false := rfl

/-! ## White space -/

/-- The code points with the property White_Space. -/
def spaceTable : CodeTable := [
    ⟨0x0009, 0x000D, 1⟩, ⟨0x0020, 0x0020, 1⟩, ⟨0x0085, 0x0085, 1⟩, ⟨0x00A0, 0x00A0, 1⟩,
    ⟨0x1680, 0x1680, 1⟩, ⟨0x2000, 0x200A, 1⟩, ⟨0x2028, 0x2029, 1⟩, ⟨0x202F, 0x202F, 1⟩,
    ⟨0x205F, 0x205F, 1⟩, ⟨0x3000, 0x3000, 1⟩]

/-- Is the character white space? -/
def isSpace (c : Char) : Bool := spaceTable.contains c.toNat

/-- The text without its leading white space. -/
def trimStart (cs : List Char) : List Char := cs.dropWhile isSpace

/-- The text without its trailing white space. -/
def trimEnd (cs : List Char) : List Char := (trimStart cs.reverse).reverse

/-- The text without white space at either end. -/
def trim (cs : List Char) : List Char := trimEnd (trimStart cs)

@[simp] theorem trimStart_nil : trimStart [] = [] := rfl

@[simp] theorem trimEnd_nil : trimEnd [] = [] := rfl

@[simp] theorem trim_nil : trim [] = [] := rfl

theorem trimStart_cons_of_isSpace {c : Char} (h : isSpace c = true) (cs : List Char) :
    trimStart (c :: cs) = trimStart cs := by
  simp [trimStart, h]

end BoardLint.Text
