import BoardLint.Path

/-!
# Sources and locations

A source is a file that has been read, as its lines. A location is a source with or without the
number of a line, counted from one; without a line it stands for the whole file.

A line ends at a line feed, and a carriage return just before that line feed belongs to the end. A
last line need not be ended, and then keeps its carriage return.
-/

namespace BoardLint

namespace Text

/-- The lines of a text, without their ends. -/
def splitLines : List Char → List (List Char)
  | [] => []
  | '\n' :: cs => [] :: splitLines cs
  | '\r' :: '\n' :: cs => [] :: splitLines cs
  | c :: cs =>
    match splitLines cs with
    | [] => [[c]]
    | line :: rest => (c :: line) :: rest

/-- The lines of a text, without their ends. -/
def lines (text : String) : List String := (splitLines text.toList).map String.ofList

@[simp] theorem splitLines_nil : splitLines [] = [] := rfl

@[simp] theorem splitLines_lineFeed (cs : List Char) :
    splitLines ('\n' :: cs) = [] :: splitLines cs := by
  simp [splitLines]

end Text

/-- A file that has been read. -/
structure Source where
  path : Path
  lines : List String
deriving DecidableEq, Repr, Inhabited

namespace Source

/-- The source with this text. -/
def ofText (path : Path) (text : String) : Source := ⟨path, Text.lines text⟩

/-- The source of a file that could not be read. -/
def unread (path : Path) : Source := ⟨path, []⟩

/-- The name shown in reports: the path as it was given. -/
def name (s : Source) : String := s.path.text

/-- The number of the line at an index. Numbers have 32 bits. -/
def lineNumber (index : Nat) : UInt32 := .ofNat index + 1

/-- The line with this number. -/
def line? (s : Source) (n : UInt32) : Option String :=
  if n = 0 then none else s.lines[n.toNat - 1]?

/-- Lines with their numbers, given the index of the first one. -/
def numberFrom : Nat → List String → List (UInt32 × String)
  | _, [] => []
  | i, line :: rest => (lineNumber i, line) :: numberFrom (i + 1) rest

/-- The lines with their numbers. -/
def numberedLines (s : Source) : List (UInt32 × String) := numberFrom 0 s.lines

/-- There are few enough lines for each of them to have a number of its own. -/
def HasNumbers (s : Source) : Prop := s.lines.length < UInt32.size

instance (s : Source) : Decidable s.HasNumbers := inferInstanceAs (Decidable (_ < _))

@[simp] theorem lines_unread (p : Path) : (unread p).lines = [] := rfl

@[simp] theorem length_numberFrom (i : Nat) (ls : List String) :
    (numberFrom i ls).length = ls.length := by
  induction ls generalizing i with
  | nil => rfl
  | cons l ls ih => simp [numberFrom, ih]

theorem numberFrom_append (i : Nat) (as bs : List String) :
    numberFrom i (as ++ bs) = numberFrom i as ++ numberFrom (i + as.length) bs := by
  induction as generalizing i with
  | nil => rfl
  | cons a as ih => simp [numberFrom, ih, Nat.add_comm, Nat.add_left_comm]

theorem map_snd_numberFrom (i : Nat) (ls : List String) :
    (numberFrom i ls).map Prod.snd = ls := by
  induction ls generalizing i with
  | nil => rfl
  | cons l ls ih => rw [numberFrom, List.map_cons, ih]

theorem getElem?_numberFrom (i : Nat) (ls : List String) (k : Nat) :
    (numberFrom i ls)[k]? = ls[k]?.map (lineNumber (i + k), ·) := by
  induction ls generalizing i k with
  | nil => rfl
  | cons l ls ih =>
    cases k with
    | zero => rfl
    | succ k =>
      simp only [numberFrom, List.getElem?_cons_succ, ih]
      rw [Nat.add_right_comm, Nat.add_assoc]

theorem getElem?_numberedLines (s : Source) (i : Nat) :
    s.numberedLines[i]? = s.lines[i]?.map (lineNumber i, ·) := by
  rw [numberedLines, getElem?_numberFrom, Nat.zero_add]

theorem length_numberedLines (s : Source) : s.numberedLines.length = s.lines.length :=
  length_numberFrom 0 s.lines

theorem mem_numberedLines_iff {s : Source} {n : UInt32} {l : String} :
    (n, l) ∈ s.numberedLines ↔ ∃ i, s.lines[i]? = some l ∧ n = lineNumber i := by
  simp only [List.mem_iff_getElem?, getElem?_numberedLines, Option.map_eq_some_iff,
    Prod.mk.injEq]
  constructor
  · rintro ⟨i, l', hl, rfl, rfl⟩
    exact ⟨i, hl, rfl⟩
  · rintro ⟨i, hl, rfl⟩
    exact ⟨i, l, hl, rfl, rfl⟩

theorem mem_numberedLines {s : Source} {i : Nat} {l : String} (h : s.lines[i]? = some l) :
    (lineNumber i, l) ∈ s.numberedLines := mem_numberedLines_iff.2 ⟨i, h, rfl⟩

/-! ### Numbers that have room in 32 bits -/

theorem lineNumber_succ (i : Nat) : lineNumber (i + 1) = lineNumber i + 1 := by
  rw [lineNumber, lineNumber, UInt32.ofNat_add]
  rfl

theorem toNat_lineNumber {i : Nat} (h : i + 1 < UInt32.size) : (lineNumber i).toNat = i + 1 := by
  have hi : (UInt32.ofNat i).toNat = i := UInt32.toNat_ofNat_of_lt (Nat.lt_of_succ_lt h)
  rw [lineNumber, UInt32.toNat_add, hi]
  exact Nat.mod_eq_of_lt h

/-- One line more, and the numbers start again. -/
example : lineNumber (UInt32.size - 1) = 0 := by decide

theorem lineNumber_inj {i j : Nat} (hi : i < UInt32.size) (hj : j < UInt32.size) :
    lineNumber i = lineNumber j ↔ i = j := by
  rw [lineNumber, lineNumber, UInt32.add_left_inj]
  constructor
  · intro h
    calc
      i = (UInt32.ofNat i).toNat := (UInt32.toNat_ofNat_of_lt hi).symm
      _ = (UInt32.ofNat j).toNat := congrArg UInt32.toNat h
      _ = j := UInt32.toNat_ofNat_of_lt hj
  · exact congrArg UInt32.ofNat

theorem HasNumbers.toNat_lineNumber {s : Source} (h : s.HasNumbers) {i : Nat} {l : String}
    (hl : s.lines[i]? = some l) : (lineNumber i).toNat = i + 1 := by
  refine Source.toNat_lineNumber (Nat.lt_of_le_of_lt ?_ h)
  exact (List.getElem?_eq_some_iff.1 hl).1

/-- A numbered line is the line with that number. -/
theorem HasNumbers.line?_eq_some_iff {s : Source} (h : s.HasNumbers) {n : UInt32} {l : String} :
    s.line? n = some l ↔ (n, l) ∈ s.numberedLines := by
  rw [mem_numberedLines_iff]
  constructor
  · intro hl
    unfold line? at hl
    split at hl
    · exact absurd hl nofun
    · rename_i hn
      refine ⟨_, hl, ?_⟩
      have hpos : n.toNat ≠ 0 := fun h0 => hn (UInt32.toNat_inj.1 h0)
      rw [← UInt32.toNat_inj, h.toNat_lineNumber hl]
      omega
  · rintro ⟨i, hl, rfl⟩
    have hi := h.toNat_lineNumber hl
    have hne : lineNumber i ≠ 0 := fun h0 => by simp [h0] at hi
    rw [line?, if_neg hne, hi, Nat.add_sub_cancel, hl]

theorem HasNumbers.eq_of_mem {s : Source} (h : s.HasNumbers) {n : UInt32} {l l' : String}
    (hl : (n, l) ∈ s.numberedLines) (hl' : (n, l') ∈ s.numberedLines) : l = l' := by
  rw [← h.line?_eq_some_iff] at hl hl'
  exact Option.some.inj (hl.symm.trans hl')

/-- The numbers are those from one to the number of lines. -/
theorem HasNumbers.bounds {s : Source} (h : s.HasNumbers) {n : UInt32} {l : String}
    (hl : (n, l) ∈ s.numberedLines) : 1 ≤ n.toNat ∧ n.toNat ≤ s.lines.length := by
  obtain ⟨i, hi, rfl⟩ := mem_numberedLines_iff.1 hl
  rw [h.toNat_lineNumber hi]
  exact ⟨Nat.le_add_left 1 i, (List.getElem?_eq_some_iff.1 hi).1⟩

end Source

/-- A place in a source: one of its lines, or all of it. -/
structure Location where
  source : Source
  line : Option UInt32
deriving DecidableEq, Repr, Inhabited

namespace Location

/-- A line of a source. -/
def atLine (s : Source) (n : UInt32) : Location := ⟨s, some n⟩

/-- A source as a whole. -/
def whole (s : Source) : Location := ⟨s, none⟩

/-- The name of the source, and the number of the line behind a colon. -/
instance : ToString Location where
  toString l :=
    match l.line with
    | some n => l.source.name ++ ":" ++ toString n
    | none => l.source.name

@[simp] theorem line_atLine (s : Source) (n : UInt32) : (atLine s n).line = some n := rfl

@[simp] theorem line_whole (s : Source) : (whole s).line = none := rfl

@[simp] theorem source_atLine (s : Source) (n : UInt32) : (atLine s n).source = s := rfl

@[simp] theorem source_whole (s : Source) : (whole s).source = s := rfl

end Location

end BoardLint
