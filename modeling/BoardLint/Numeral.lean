import BoardLint.Text.Space

/-!
# Integer literals

An optional sign, then digits in base sixteen after `0x`, eight after `0o`, two after `0b`, and ten
otherwise. A decimal literal does not start with a zero unless all its digits are zeros: elsewhere
such a literal would be read in base eight. The magnitude is at most `2 ^ 63 - 1`.
-/

namespace BoardLint.Numeral

/-- The greatest magnitude of a literal, `2 ^ 63 - 1`. -/
def maxMagnitude : Nat := 0x7FFFFFFFFFFFFFFF

/-- The value of a digit, of either case, in a base of at most sixteen. -/
def digit? (base : Nat) (c : Char) : Option Nat :=
  let value? :=
    if '0' ≤ c ∧ c ≤ '9' then some (c.toNat - '0'.toNat)
    else if 'a' ≤ c ∧ c ≤ 'f' then some (c.toNat - 'a'.toNat + 10)
    else if 'A' ≤ c ∧ c ≤ 'F' then some (c.toNat - 'A'.toNat + 10)
    else none
  value?.filter (· < base)

/-- The digits continue the number `n`. -/
def continue? (base : Nat) : Nat → List Char → Option Nat
  | n, [] => some n
  | n, c :: cs => (digit? base c).bind fun d => continue? base (n * base + d) cs

/-- The number written by one or more digits. -/
def natural? (base : Nat) (cs : List Char) : Option Nat :=
  if cs.isEmpty then none else continue? base 0 cs

/-- Is the literal negative, and what follows the sign? -/
def sign : List Char → Bool × List Char
  | '-' :: cs => (true, cs)
  | '+' :: cs => (false, cs)
  | cs => (false, cs)

/-- The base of the digits, and what follows the mark of the base. -/
def base : List Char → Nat × List Char
  | '0' :: 'x' :: cs | '0' :: 'X' :: cs => (16, cs)
  | '0' :: 'o' :: cs | '0' :: 'O' :: cs => (8, cs)
  | '0' :: 'b' :: cs | '0' :: 'B' :: cs => (2, cs)
  | cs => (10, cs)

/-- Are these the digits of a literal of base eight in the old style? -/
def leadingZero (base : Nat) (digits : List Char) : Bool :=
  base == 10 && digits.head? == some '0' && digits.any (· != '0')

/-- The magnitude written after the sign. -/
def magnitude? (cs : List Char) : Option Nat :=
  let (b, digits) := base cs
  if leadingZero b digits then none
  else (natural? b digits).filter (· ≤ maxMagnitude)

/-- The integer that a text writes, white space at its ends aside. -/
def parse? (text : String) : Option Int :=
  let (negative, cs) := sign (Text.trim text.toList)
  (magnitude? cs).map fun m => if negative then -(m : Int) else m

@[simp] theorem natural?_nil (b : Nat) : natural? b [] = none := rfl

end BoardLint.Numeral
