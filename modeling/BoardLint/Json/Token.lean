import BoardLint.Numeral

/-!
# JSON tokens

A text as its JSON tokens, each with the number of its line. Where the text stops being JSON the
tokens end, and the last one carries the line of the fault: the line that reading had reached when
it noticed, so a line feed that was read in place of something else counts.

A string can be read, or skipped where its content does not matter. Skipping is more lenient: it
takes any four hexadecimal digits after `\u`, while reading also wants surrogates to form pairs.
-/

namespace BoardLint.Json

/-- A token of JSON. -/
inductive Token where
  | openBrace
  | closeBrace
  | openBracket
  | closeBracket
  | comma
  | colon
  /-- A string: what reading it gives, and the line of the fault that skipping it meets. Either
  way a fault is the number of a line. -/
  | string (text : Except Nat String) (skipFault : Option Nat)
  /-- A number, and its value if it is written as a natural number. -/
  | number (natural : Option Nat)
  /-- `null` -/
  | null
  /-- `true` or `false` -/
  | boolean
  /-- A number or a word that breaks off, with the line of the fault. -/
  | broken (line : Nat)
  /-- A character that starts no token. -/
  | stray

/-- Tokens with their lines, up to the end of the text. -/
inductive Tokens where
  | finish (line : Nat)
  | next (line : Nat) (token : Token) (rest : Tokens)

/-- The number of tokens. -/
def Tokens.size : Tokens → Nat
  | finish _ => 0
  | next _ _ rest => rest.size + 1

/-! ## Lines of faults -/

/-- The line after a character that has been read. -/
def lineAfter (line : Nat) (c : Char) : Nat := if c = '\n' then line + 1 else line

/-- The line after the next character, if there is one. -/
def lineAfterNext (line : Nat) (cs : List Char) : Nat :=
  match cs with
  | [] => line
  | c :: _ => lineAfter line c

/-- The line feeds in the first `n` bytes of a text that has as many. -/
def lineFeedsWithin : Nat → List Char → Option Nat
  | 0, _ => some 0
  | _ + 1, [] => none
  | n + 1, c :: cs =>
    (lineFeedsWithin (n + 1 - c.utf8Size) cs).map fun k => if c = '\n' then k + 1 else k

/-! ## Strings -/

/-- The number written by the first four hexadecimal digits. Reading takes four bytes at once. -/
def hexFour (line : Nat) (cs : List Char) : Except Nat Nat :=
  match (if (cs.take 4).length = 4 then Numeral.natural? 16 (cs.take 4) else none) with
  | some n => .ok n
  | none =>
    match lineFeedsWithin 4 cs with
    | some k => .error (line + k)
    | none => .error (line + cs.count '\n')

/-- The character that an escape of one letter stands for. -/
def escaped? : Char → Option Char
  | '"' => some '"'
  | '\\' => some '\\'
  | '/' => some '/'
  | 'b' => some '\x08'
  | 'f' => some '\x0c'
  | 'n' => some '\n'
  | 'r' => some '\r'
  | 't' => some '\t'
  | _ => none

/-- The number of characters up to the quote that ends a string, that quote included. -/
def skipString (line : Nat) : List Char → Except Nat Nat
  | [] => .error line
  | '"' :: _ => .ok 1
  | '\\' :: 'u' :: cs => do
    let _ ← hexFour line cs
    return (← skipString line cs) + 2
  | '\\' :: c :: cs =>
    if (escaped? c).isSome then (· + 2) <$> skipString line cs else .error (lineAfter line c)
  | c :: cs => if c < ' ' then .error line else (· + 1) <$> skipString line cs

/-- Is it the first half of a surrogate pair? -/
def isLeading (n : Nat) : Bool := 0xD800 ≤ n && n ≤ 0xDBFF

/-- Is it the second half of a surrogate pair? -/
def isTrailing (n : Nat) : Bool := 0xDC00 ≤ n && n ≤ 0xDFFF

/-- The character of a surrogate pair. -/
def pairChar (leading trailing : Nat) : Char :=
  Char.ofNat (0x10000 + (leading - 0xD800) * 0x400 + (trailing - 0xDC00))

/-- The characters of a string up to the quote that ends it. -/
def readString (line : Nat) : List Char → Except Nat (List Char)
  | [] => .error line
  | '"' :: _ => .ok []
  | '\\' :: 'u' :: cs =>
    match hexFour line cs with
    | .error fault => .error fault
    | .ok n =>
      if isTrailing n then .error line
      else if isLeading n then
        match _h : cs.drop 4 with
        | '\\' :: 'u' :: after =>
          match hexFour line after with
          | .error fault => .error fault
          | .ok m =>
            if isTrailing m then (pairChar n m :: ·) <$> readString line (after.drop 4)
            else .error line
        | '\\' :: after => .error (lineAfterNext line after)
        | after => .error (lineAfterNext line after)
      else (Char.ofNat n :: ·) <$> readString line (cs.drop 4)
  | '\\' :: c :: cs =>
    match escaped? c with
    | some e => (e :: ·) <$> readString line cs
    | none => .error (lineAfter line c)
  | c :: cs =>
    if c < ' ' then .error (lineAfter line c) else (c :: ·) <$> readString line cs
termination_by cs => cs.length
decreasing_by
  all_goals simp only [List.length_cons, List.length_drop]
  · have : after.length + 2 ≤ cs.length := by
      have := congrArg List.length _h
      simp only [List.length_drop, List.length_cons] at this
      omega
    omega
  all_goals omega

/-! ## Numbers and words -/

/-- The digits at the start of a text: how many, of which there has to be one. -/
def someDigits (line : Nat) (cs : List Char) : Except Nat Nat :=
  match (cs.takeWhile Char.isDigit).length with
  | 0 => .error (lineAfterNext line cs)
  | n => .ok n

/-- The length of the part of a number behind its point, the point included. -/
def fraction (line : Nat) : List Char → Except Nat Nat
  | '.' :: cs => (· + 1) <$> someDigits line cs
  | _ => .ok 0

/-- The length of the exponent of a number. -/
def exponent (line : Nat) : List Char → Except Nat Nat
  | c :: cs =>
    if c = 'e' ∨ c = 'E' then
      match cs with
      | '+' :: cs | '-' :: cs => (· + 2) <$> someDigits line cs
      | cs => (· + 1) <$> someDigits line cs
    else .ok 0
  | [] => .ok 0

/-- The length of a number, and its value if it is written as a natural number. -/
def readNumber (line : Nat) (cs : List Char) : Except Nat (Nat × Option Nat) := do
  let (sign, unsigned) := match cs with
    | '-' :: cs => (1, cs)
    | cs => (0, cs)
  let whole ← someDigits line unsigned
  let digits := unsigned.take whole
  if digits.head? == some '0' && whole > 1 then .error line
  let f ← fraction line (unsigned.drop whole)
  let e ← exponent line (unsigned.drop (whole + f))
  let natural := if sign + f + e == 0 then Numeral.natural? 10 digits else none
  return (sign + whole + f + e, natural)

/-- The length of a word that has to be as expected. -/
def readWord (line : Nat) : (expected cs : List Char) → Except Nat Nat
  | [], _ => .ok 0
  | _ :: _, [] => .error line
  | e :: expected, c :: cs =>
    if e = c then (· + 1) <$> readWord line expected cs else .error (lineAfter line c)

/-! ## Texts -/

/-- A word that is a token of its own. -/
def wordToken? : Char → Option (String × Token)
  | 'n' => some ("null", .null)
  | 't' => some ("true", .boolean)
  | 'f' => some ("false", .boolean)
  | _ => none

/-- A character that is a token of its own. -/
def markToken? : Char → Option Token
  | '\x7b' => some .openBrace
  | '\x7d' => some .closeBrace
  | '[' => some .openBracket
  | ']' => some .closeBracket
  | ',' => some .comma
  | ':' => some .colon
  | _ => none

/-- The first token of a text that starts with `c`, and how much of what follows `c` it takes. The
tokens end where it is none. -/
def firstToken (line : Nat) (c : Char) (cs : List Char) : Token × Option Nat :=
  match markToken? c, wordToken? c with
  | some token, _ => (token, some 0)
  | none, some (word, token) =>
    match readWord line (word.toList.drop 1) cs with
    | .ok n => (token, some n)
    | .error fault => (.broken fault, none)
  | none, none =>
    if c = '"' then
      let text := (readString line cs).map String.ofList
      match skipString line cs with
      | .ok n => (.string text none, some n)
      | .error fault => (.string text (some fault), none)
    else if c = '-' || c.isDigit then
      match readNumber line (c :: cs) with
      | .ok (n, natural) => (.number natural, some (n - 1))
      | .error fault => (.broken fault, none)
    else (.stray, none)

/-- The tokens of a text whose first character stands on the given line. -/
def tokensFrom (line : Nat) : List Char → Tokens
  | [] => .finish line
  | c :: cs =>
    if c = '\n' then tokensFrom (line + 1) cs
    else if c = ' ' ∨ c = '\t' ∨ c = '\r' then tokensFrom line cs
    else
      match firstToken line c cs with
      | (token, some n) => .next line token (tokensFrom line (cs.drop n))
      | (token, none) => .next line token (.finish line)
termination_by cs => cs.length
decreasing_by
  all_goals simp only [List.length_cons, List.length_drop]; omega

/-- The tokens of a text. -/
def tokens (text : String) : Tokens := tokensFrom 1 text.toList

end BoardLint.Json
