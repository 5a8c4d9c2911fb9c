/-!
# Branches of conditionals

The open conditionals of a file, and whether the branch that each of them is in is active. A branch
inside of an inactive one is inactive, whatever its condition says.

The file itself is the level around all conditionals. It is always active, and it is never left.
-/

namespace BoardLint

/-- How the lines of a file's conditionals fail to match. -/
inductive NestingError where
  /-- An `#else` outside of every conditional. -/
  | unmatchedElse
  /-- An `#endif` outside of every conditional. -/
  | unmatchedEnd
  /-- Conditionals still open where the file ends. -/
  | unterminated (count : Nat)
deriving DecidableEq, Repr

/-- The error in words. -/
def NestingError.message : NestingError → String
  | unmatchedElse => "`#else` without a matching `#if`"
  | unmatchedEnd => "`#endif` without a matching `#if`"
  | unterminated count => toString count ++ " conditional block(s) left open at end of file"

/-- For each open conditional, the innermost first, and for the file around them all: is its branch
active? -/
structure Branches where
  levels : List Bool
  base : levels.getLast? = some true
deriving DecidableEq, Repr

namespace Branches

/-- No conditional is open. -/
def none : Branches := ⟨[true], rfl⟩

instance : Inhabited Branches := ⟨none⟩

/-- Is the current branch active? -/
def isActive (b : Branches) : Bool := b.levels.head?.getD false

/-- The number of open conditionals. -/
def depth (b : Branches) : Nat := b.levels.length - 1

/-- A conditional opens. -/
def enter (b : Branches) (condition : Bool) : Branches :=
  ⟨(b.isActive && condition) :: b.levels, by rw [List.getLast?_cons, b.base]; rfl⟩

/-- The innermost conditional goes on with its other branch, if one is open. -/
def flip : Branches → Except NestingError Unit × Branches
  | ⟨top :: parent :: outer, base⟩ =>
    (.ok (), ⟨(parent && !top) :: parent :: outer, by rwa [List.getLast?_cons_cons] at base ⊢⟩)
  | b => (.error .unmatchedElse, b)

/-- The innermost conditional ends, if one is open. -/
def leave : Branches → Except NestingError Unit × Branches
  | ⟨_ :: parent :: outer, base⟩ =>
    (.ok (), ⟨parent :: outer, by rwa [List.getLast?_cons_cons] at base⟩)
  | b => (.error .unmatchedEnd, b)

/-- The file ends, where no conditional may be open. -/
def finish (b : Branches) : Except NestingError Unit :=
  match b.depth with
  | 0 => .ok ()
  | n => .error (.unterminated n)

@[ext] theorem ext {b b' : Branches} (h : b.levels = b'.levels) : b = b' := by
  cases b; cases b'; simp_all

/-- There is no conditional, or there is an innermost one inside of another level. -/
theorem cases_levels (b : Branches) :
    b = none ∨ ∃ top parent outer, b.levels = top :: parent :: outer := by
  obtain ⟨levels, base⟩ := b
  match levels, base with
  | [top], base => exact .inl (ext (congrArg (fun t => [t]) (Option.some.inj base)))
  | top :: parent :: outer, _ => exact .inr ⟨top, parent, outer, rfl⟩

/-- The innermost level says whether the current branch is active. -/
theorem exists_levels (b : Branches) : ∃ outer, b.levels = b.isActive :: outer := by
  obtain ⟨levels, base⟩ := b
  match levels with
  | top :: outer => exact ⟨outer, rfl⟩

@[simp] theorem depth_none : none.depth = 0 := rfl

theorem length_levels (b : Branches) : b.levels.length = b.depth + 1 := by
  obtain rfl | ⟨top, parent, outer, h⟩ := b.cases_levels
  · rfl
  · rw [depth, h]
    rfl

theorem levels_enter (b : Branches) (c : Bool) :
    (b.enter c).levels = (b.isActive && c) :: b.levels := rfl

@[simp] theorem depth_enter (b : Branches) (c : Bool) : (b.enter c).depth = b.depth + 1 :=
  b.length_levels

@[simp] theorem isActive_enter (b : Branches) (c : Bool) :
    (b.enter c).isActive = (b.isActive && c) := rfl

theorem flip_none : none.flip = (.error .unmatchedElse, none) := rfl

theorem leave_none : none.leave = (.error .unmatchedEnd, none) := rfl

/-- A flip makes the innermost truth value anew from the one around it. -/
theorem flip_of_levels {b : Branches} {top parent : Bool} {outer : List Bool}
    (h : b.levels = top :: parent :: outer) :
    ∃ base, b.flip = (.ok (), ⟨(parent && !top) :: parent :: outer, base⟩) := by
  obtain ⟨levels, base⟩ := b
  cases h
  exact ⟨_, rfl⟩

/-- The end of a conditional leaves the levels around it. -/
theorem leave_of_levels {b : Branches} {top parent : Bool} {outer : List Bool}
    (h : b.levels = top :: parent :: outer) :
    ∃ base, b.leave = (.ok (), ⟨parent :: outer, base⟩) := by
  obtain ⟨levels, base⟩ := b
  cases h
  exact ⟨_, rfl⟩

theorem depth_eq_zero_iff {b : Branches} : b.depth = 0 ↔ b = none := by
  obtain rfl | ⟨top, parent, outer, h⟩ := b.cases_levels
  · exact iff_of_true rfl rfl
  · refine iff_of_false (by simp [depth, h]) ?_
    rintro rfl
    cases h

theorem finish_eq_ok_iff {b : Branches} : b.finish = .ok () ↔ b.depth = 0 := by
  unfold finish
  split <;> simp_all

end Branches

end BoardLint
