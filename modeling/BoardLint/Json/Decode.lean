import BoardLint.Json.Token

/-!
# Decoding JSON

A decoder reads one value of a known type from the start of some tokens. It stops at the first
fault in reading order, whether the text is not JSON there or the value has the wrong type, so that
a fault always has the line at which it was noticed.

Every decoder takes at least one token: it gives what is left together with the fact that this is
less, on which the loops over lists and objects end.
-/

namespace BoardLint.Json

/-- What is wrong with a text. -/
inductive Reason where
  /-- The text ends inside of a value. -/
  | endOfText
  /-- A string, a number or a word is not well formed. -/
  | malformed
  /-- Something else stands where this has to come. -/
  | expected (what : String)
  /-- A field is given twice. -/
  | duplicateField (name : String)
  /-- A field is not given. -/
  | missingField (name : String)
deriving DecidableEq, Repr

/-- What is wrong with a text, and the line at which it was noticed. -/
structure Fault where
  line : Nat
  reason : Reason
deriving DecidableEq, Repr

namespace Fault

/-- The fault in words. -/
def message (f : Fault) : String :=
  let what :=
    match f.reason with
    | .endOfText => "unexpected end of text"
    | .malformed => "malformed string, number or word"
    | .expected what => "expected " ++ what
    | .duplicateField name => "duplicate field `" ++ name ++ "`"
    | .missingField name => "missing field `" ++ name ++ "`"
  what ++ " at line " ++ toString f.line

instance : ToString Fault := ⟨message⟩

end Fault

/-- Fewer tokens. -/
abbrev Rest (ts : Tokens) := { rest : Tokens // rest.size < ts.size }

/-- Reads one value, and gives it with the tokens that are left. -/
def Decoder (α : Type) := (ts : Tokens) → Except Fault (α × Rest ts)

namespace Tokens

/-- The line of the first token, or of the end. -/
def line : Tokens → Nat
  | finish line | next line _ _ => line

/-- The fault of tokens that start with something else than a mark that has to come. -/
def misplaced (what : String) : Tokens → Fault
  | finish line => ⟨line, .endOfText⟩
  | next line _ _ => ⟨line, .expected what⟩

/-- The fault of tokens that start with something else than the value that has to come. A value of
another type is read first, and may have a fault of its own. -/
def mistyped (what : String) : Tokens → Fault
  | finish line => ⟨line, .endOfText⟩
  | next _ (.broken line) _ => ⟨line, .malformed⟩
  | next _ (.string (.error line) _) _ => ⟨line, .malformed⟩
  | next line _ _ => ⟨line, .expected what⟩

end Tokens

theorem size_lt_next (line : Nat) (t : Token) (rest : Tokens) :
    rest.size < (Tokens.next line t rest).size := Nat.lt_succ_self _

/-- Tokens that are left after what is left. -/
def Rest.trans {ts : Tokens} (r : Rest ts) (s : Rest r.val) : Rest ts :=
  ⟨s.val, Nat.lt_trans s.property r.property⟩

/-- What is left after the first token. -/
def Rest.tail (line : Nat) (t : Token) (rest : Tokens) : Rest (.next line t rest) :=
  ⟨rest, size_lt_next line t rest⟩

/-! ## Single tokens -/

/-- The greatest number that is read. -/
def maxNatural : Nat := 0xFFFFFFFF

/-- A natural number of 32 bits. -/
def natural : Decoder Nat
  | .next line (.number (some n)) _ =>
    if n ≤ maxNatural then .ok (n, Rest.tail ..) else .error ⟨line, .expected "a 32-bit number"⟩
  | ts => .error (ts.mistyped "a 32-bit number")

/-- A string. -/
def text : Decoder String
  | .next _ (.string (.ok s) _) _ => .ok (s, Rest.tail ..)
  | ts => .error (ts.mistyped "a string")

/-- A colon. -/
def colon : Decoder Unit
  | .next _ .colon _ => .ok ((), Rest.tail ..)
  | ts => .error (ts.misplaced "`:`")

/-- A key of an object, where one has to come. -/
def key : Decoder String
  | .next _ (.string s _) _ =>
    match s with
    | .ok s => .ok (s, Rest.tail ..)
    | .error fault => .error ⟨fault, .malformed⟩
  | ts => .error (ts.misplaced "a key")

/-! ## Values that do not matter -/

/-- The brackets that values are nested in. -/
inductive Bracket where
  | list
  | object

/-- What has to come next while a value is skipped. -/
inductive Awaited where
  /-- A value. -/
  | value
  /-- The first value or key, or the end of the list or object. -/
  | first
  /-- A comma, or the end of the list or object. -/
  | comma
  /-- A key. -/
  | key
  /-- A colon. -/
  | colon

/-- The outcome of a token while a value is skipped. -/
inductive Skipped where
  /-- The value goes on. -/
  | more (awaited : Awaited) (nesting : List Bracket)
  /-- The value ends. -/
  | done
  /-- The token does not fit. -/
  | fault (line : Nat)

/-- A value ends inside of brackets. -/
def Skipped.closed : List Bracket → Skipped
  | [] => .done
  | nesting => .more .comma nesting

/-- A value, while one is skipped. -/
def skipValue (line : Nat) (nesting : List Bracket) : Token → Skipped
  | .openBracket => .more .first (.list :: nesting)
  | .openBrace => .more .first (.object :: nesting)
  | .broken fault => .fault fault
  | .string _ (some fault) => .fault fault
  | .string _ none | .number _ | .null | .boolean => Skipped.closed nesting
  | _ => .fault line

/-- A key, while a value is skipped. -/
def skipKey (line : Nat) (nesting : List Bracket) : Token → Skipped
  | .string _ none => .more .colon nesting
  | .string _ (some fault) => .fault fault
  | _ => .fault line

/-- One token, while a value is skipped. -/
def skipToken (line : Nat) (awaited : Awaited) (nesting : List Bracket) (t : Token) : Skipped :=
  match awaited, nesting, t with
  | .first, .list :: outer, .closeBracket => Skipped.closed outer
  | .first, .object :: outer, .closeBrace => Skipped.closed outer
  | .first, .object :: _, t => skipKey line nesting t
  | .first, _, t => skipValue line nesting t
  | .value, _, t => skipValue line nesting t
  | .comma, .list :: _, .comma => .more .value nesting
  | .comma, .object :: _, .comma => .more .key nesting
  | .comma, .list :: outer, .closeBracket => Skipped.closed outer
  | .comma, .object :: outer, .closeBrace => Skipped.closed outer
  | .key, _, t => skipKey line nesting t
  | .colon, _, .colon => .more .value nesting
  | _, _, _ => .fault line

/-- The rest of a value that is skipped. -/
def skipFrom (awaited : Awaited) (nesting : List Bracket) : Decoder Unit
  | .finish line => .error ⟨line, .endOfText⟩
  | .next line t rest =>
    match skipToken line awaited nesting t with
    | .done => .ok ((), Rest.tail ..)
    | .fault fault => .error ⟨fault, .malformed⟩
    | .more awaited nesting => do
      let ((), left) ← skipFrom awaited nesting rest
      .ok ((), (Rest.tail line t rest).trans left)

/-- A value of any type. -/
def skip : Decoder Unit := skipFrom .value []

/-! ## Lists -/

/-- The rest of a list, behind its bracket or an item. -/
def itemsFrom {α : Type} (item : Decoder α) (first : Bool) (ts : Tokens) :
    Except Fault (List α × Rest ts) :=
  match ts with
  | .next line .closeBracket rest => .ok ([], Rest.tail line _ rest)
  | .next line .comma rest =>
    if first then .error ((Tokens.next line .comma rest).mistyped "a value")
    else
      match rest with
      | .next line .closeBracket _ => .error ⟨line, .expected "a value"⟩
      | rest => do
        let (a, left) ← item rest
        let (as, left') ← itemsFrom item false left.val
        .ok (a :: as, ((Rest.tail line .comma rest).trans left).trans left')
  | ts =>
    if first then do
      let (a, left) ← item ts
      let (as, left') ← itemsFrom item false left.val
      .ok (a :: as, left.trans left')
    else .error (ts.misplaced "`,` or the end of the list")
termination_by ts.size
decreasing_by
  · have := left.property
    simp only [Tokens.size] at *
    omega
  · exact left.property

/-- A list of values. -/
def list {α : Type} (item : Decoder α) : Decoder (List α)
  | .next line .openBracket rest => do
    let (as, left) ← itemsFrom item true rest
    .ok (as, (Rest.tail line .openBracket rest).trans left)
  | ts => .error (ts.mistyped "a list")

/-! ## Objects -/

/-- The rest of an object, behind its brace or a member. A member is read by what its key asks for,
and changes what has been read so far; with the result comes the line of the closing brace. -/
def membersFrom {σ : Type} (member : String → σ → Decoder σ) (first : Bool) (s : σ) (ts : Tokens) :
    Except Fault ((σ × Nat) × Rest ts) :=
  match ts with
  | .next line .closeBrace rest => .ok ((s, line), Rest.tail line _ rest)
  | .next line .comma rest =>
    if first then .error ⟨line, .expected "a key"⟩
    else do
      let (k, left) ← key rest
      let (s, left') ← member k s left.val
      let (result, left'') ← membersFrom member false s left'.val
      .ok (result, (((Rest.tail line .comma rest).trans left).trans left').trans left'')
  | ts =>
    if first then do
      let (k, left) ← key ts
      let (s, left') ← member k s left.val
      let (result, left'') ← membersFrom member false s left'.val
      .ok (result, (left.trans left').trans left'')
    else .error (ts.misplaced "`,` or the end of the object")
termination_by ts.size
decreasing_by
  · have := left.property
    have := left'.property
    simp only [Tokens.size] at *
    omega
  · have := left.property
    have := left'.property
    omega

/-- An object, read member by member. -/
def object {σ : Type} (member : String → σ → Decoder σ) (s : σ) : Decoder (σ × Nat)
  | .next line .openBrace rest => do
    let (result, left) ← membersFrom member true s rest
    .ok (result, (Rest.tail line .openBrace rest).trans left)
  | ts => .error (ts.mistyped "an object")

/-- A colon and the value behind it. -/
def member {α σ : Type} (value : Decoder α) (add : α → σ) : Decoder σ := fun ts => do
  let ((), left) ← colon ts
  let (a, left') ← value left.val
  .ok (add a, left.trans left')

/-! ## Records

A record is written as an object, whose unknown members are skipped, or as the list of its fields
in order, of which the last ones may be left out.
-/

/-- A field of a record that is read into `σ`. -/
structure RecordField (σ : Type) where
  name : String
  /-- Has the field been read? -/
  isSet : σ → Bool
  /-- Reads the value of the field. -/
  read : σ → Decoder σ

/-- A member of a record: a field that is new, or one that does not matter. -/
def recordMember {σ : Type} (fields : List (RecordField σ)) (name : String) (s : σ) : Decoder σ :=
  fun ts =>
    match fields.find? (·.name == name) with
    | none => member skip (fun () => s) ts
    | some field =>
      if field.isSet s then .error ⟨ts.line, .duplicateField name⟩
      else do
        let ((), left) ← colon ts
        let (s, left') ← field.read s left.val
        .ok (s, left.trans left')

/-- The rest of a record that is written as a list, with the line of the closing bracket. -/
def recordItems {σ : Type} (first : Bool) (s : σ) :
    List (RecordField σ) → Decoder (σ × Nat)
  | _, .next line .closeBracket _ => .ok ((s, line), Rest.tail ..)
  | [], ts =>
    match ts with
    | .next _ .comma rest => .error (rest.misplaced "the end of the list")
    | ts => .error (ts.misplaced "the end of the list")
  | field :: fields, .next line .comma rest =>
    if first then .error ((Tokens.next line .comma rest).mistyped "a value")
    else
      match rest with
      | .next line .closeBracket _ => .error ⟨line, .expected "a value"⟩
      | rest => do
        let (s, left) ← field.read s rest
        let (result, left') ← recordItems false s fields left.val
        .ok (result, ((Rest.tail line .comma rest).trans left).trans left')
  | field :: fields, ts =>
    if first then do
      let (s, left) ← field.read s ts
      let (result, left') ← recordItems false s fields left.val
      .ok (result, left.trans left')
    else .error (ts.misplaced "`,` or the end of the list")

/-- A record, with the line of its closing mark. -/
def record {σ : Type} (what : String) (fields : List (RecordField σ)) (s : σ) : Decoder (σ × Nat)
  | .next line .openBracket rest => do
    let (result, left) ← recordItems true s fields rest
    .ok (result, (Rest.tail line .openBracket rest).trans left)
  | .next line .openBrace rest => object (recordMember fields) s (.next line .openBrace rest)
  | ts => .error (ts.mistyped what)

/-- A value, or nothing where the value is `null`. -/
def optional {α : Type} (value : Decoder α) : Decoder (Option α)
  | .next _ .null _ => .ok (none, Rest.tail ..)
  | ts => do
    let (a, left) ← value ts
    .ok (some a, left)

/-- A field that has to be given. -/
def required {α : Type} (name : String) (closing : Nat) : Option α → Except Fault α
  | some a => .ok a
  | none => .error ⟨closing, .missingField name⟩

/-- Reads a whole text as one value. -/
def decode {α : Type} (value : Decoder α) (text : String) : Except Fault α := do
  let (a, rest) ← value (tokens text)
  match rest.val with
  | .finish _ => .ok a
  | .next line _ _ => .error ⟨line, .expected "the end of the text"⟩

end BoardLint.Json
