/-!
# The ends and the inside of a text

Tests for a text at the start, at the end or inside of another, and the removal of such an end.
`dropStart?_eq_some_iff` and `dropEnd?_eq_some_iff`: what is left is the rest of the text.
-/

namespace BoardLint.Text

/-! ## Characters -/

/-- What follows `p` in a text that starts with it. -/
def dropStart? : (p cs : List Char) → Option (List Char)
  | [], cs => some cs
  | _ :: _, [] => none
  | a :: p, c :: cs => if a = c then dropStart? p cs else none

/-- What stands before `p` in a text that ends with it. -/
def dropEnd? (p cs : List Char) : Option (List Char) :=
  (dropStart? p.reverse cs.reverse).map List.reverse

/-- Does `p` stand somewhere in the text? -/
def occurs (p : List Char) : List Char → Bool
  | [] => p.isEmpty
  | c :: cs => p.isPrefixOf (c :: cs) || occurs p cs

theorem dropStart?_eq_some_iff {p cs rest : List Char} :
    dropStart? p cs = some rest ↔ cs = p ++ rest := by
  induction p generalizing cs with
  | nil => simp [dropStart?, eq_comm]
  | cons a p ih =>
    cases cs with
    | nil => simp [dropStart?]
    | cons c cs => by_cases h : a = c <;> simp [dropStart?, h, ih, eq_comm]

@[simp] theorem dropStart?_append (p rest : List Char) : dropStart? p (p ++ rest) = some rest :=
  dropStart?_eq_some_iff.2 rfl

theorem dropEnd?_eq_some_iff {p cs rest : List Char} :
    dropEnd? p cs = some rest ↔ cs = rest ++ p := by
  simp only [dropEnd?, Option.map_eq_some_iff, dropStart?_eq_some_iff]
  constructor
  · rintro ⟨r, h, rfl⟩
    rw [← List.reverse_inj, h]
    simp
  · rintro rfl
    exact ⟨rest.reverse, by simp, by simp⟩

theorem occurs_iff {p cs : List Char} : occurs p cs = true ↔ p <:+: cs := by
  induction cs with
  | nil => simp [occurs]
  | cons c cs ih => simp [occurs, ih, List.infix_cons_iff, List.isPrefixOf_iff_prefix]

/-! ## Strings -/

/-- Does the text start with `p`? -/
def startsWith (p s : String) : Bool := p.toList.isPrefixOf s.toList

/-- Does the text end with `p`? -/
def endsWith (p s : String) : Bool := p.toList.isSuffixOf s.toList

/-- Does `p` stand somewhere in the text? -/
def occursIn (p s : String) : Bool := occurs p.toList s.toList

theorem endsWith_iff {p s : String} : endsWith p s = true ↔ p.toList <:+ s.toList :=
  List.isSuffixOf_iff_suffix

theorem occursIn_iff {p s : String} : occursIn p s = true ↔ p.toList <:+: s.toList :=
  occurs_iff

end BoardLint.Text
