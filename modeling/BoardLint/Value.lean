import BoardLint.Numeral

/-!
# Values

The value of a define or of a setting: an integer where the text is an integer literal, and the
text as it stands otherwise, which may be the name of another define.
-/

namespace BoardLint

/-- The value of a define or of a setting. -/
inductive Value where
  | int (n : Int)
  | text (s : String)
deriving DecidableEq, Repr, Inhabited

namespace Value

/-- The value that a text writes. -/
def ofString (s : String) : Value :=
  match Numeral.parse? s with
  | some n => int n
  | none => text s

/-- The integer, if the value is one. -/
def int? : Value → Option Int
  | int n => some n
  | text _ => none

/-- Does a condition on the value hold? An integer does unless it is zero, a text unless it is
empty. -/
def truthy : Value → Bool
  | int n => n != 0
  | text s => s != ""

instance : ToString Value where
  toString
    | int n => toString n
    | text s => s

@[simp] theorem toString_int (n : Int) : toString (int n) = toString n := rfl

@[simp] theorem toString_text (s : String) : toString (text s) = s := rfl

@[simp] theorem int?_eq_some {v : Value} {n : Int} : v.int? = some n ↔ v = int n := by
  cases v <;> simp [int?]

/-- A value in a message, where there may be none. -/
def describe : Option Value → String
  | some v => toString v
  | none => "<no value>"

end Value

end BoardLint
