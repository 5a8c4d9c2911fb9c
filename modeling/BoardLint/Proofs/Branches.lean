import BoardLint.Branches
import Mathlib.Algebra.Ring.Parity

/-!
# What the branches mean

A conditional taken by itself is in a branch that counts if its condition holds and the branch has
been changed an even number of times, or the one as little as the other (`Conditional.Counts`).
`Branches` does not keep conditions: it has one truth value for each open conditional, in which
those around it are accounted for, and a flip makes the innermost one anew from the one around it.

Nothing is lost by this. Each truth value says that the conditional and all those around it count
(`truths`), which every move keeps up (`levels_attempt`): where a conditional around does not count,
the condition of an inner one has no effect now and none later. So the current branch is active
exactly if every open conditional counts (`after_moves`).
-/

namespace BoardLint.Branches

/-! ## Moves -/

/-- What a line may do to the open conditionals. -/
inductive Move where
  | enter (condition : Bool)
  | flip
  | leave
deriving DecidableEq, Repr

/-- What comes of a move, and the branches behind it. -/
def Move.apply (b : Branches) : Move → Except NestingError Unit × Branches
  | .enter condition => (.ok (), b.enter condition)
  | .flip => b.flip
  | .leave => b.leave

/-- The branches behind a move, also if it fails. -/
def attempt (b : Branches) (m : Move) : Branches := (m.apply b).2

/-- The branches behind some moves, of which some may fail, where no conditional was open. -/
def after (ms : List Move) : Branches := ms.foldl attempt none

theorem after_concat (ms : List Move) (m : Move) : after (ms ++ [m]) = (after ms).attempt m := by
  simp [after]

theorem flip_eq_error_iff {b : Branches} {e : NestingError} :
    b.flip.1 = .error e ↔ b.depth = 0 ∧ e = .unmatchedElse := by
  obtain rfl | ⟨top, parent, outer, h⟩ := b.cases_levels
  · simp [flip_none, eq_comm]
  · obtain ⟨base, hr⟩ := flip_of_levels h
    simp [hr, depth, h]

theorem leave_eq_error_iff {b : Branches} {e : NestingError} :
    b.leave.1 = .error e ↔ b.depth = 0 ∧ e = .unmatchedEnd := by
  obtain rfl | ⟨top, parent, outer, h⟩ := b.cases_levels
  · simp [leave_none, eq_comm]
  · obtain ⟨base, hr⟩ := leave_of_levels h
    simp [hr, depth, h]

/-- A move that fails leaves the branches as they are. -/
theorem attempt_of_error {b : Branches} {m : Move} {e : NestingError}
    (h : (m.apply b).1 = .error e) : b.attempt m = b := by
  cases m with
  | enter condition => exact absurd h nofun
  | flip =>
    obtain rfl := depth_eq_zero_iff.1 (flip_eq_error_iff.1 h).1
    exact congrArg Prod.snd flip_none
  | leave =>
    obtain rfl := depth_eq_zero_iff.1 (leave_eq_error_iff.1 h).1
    exact congrArg Prod.snd leave_none

theorem finish_eq_error_iff {b : Branches} {e : NestingError} :
    b.finish = .error e ↔ b.depth ≠ 0 ∧ e = .unterminated b.depth := by
  unfold finish
  cases b.depth <;> simp [eq_comm]

/-! ## Open conditionals -/

/-- An open conditional: the condition that it was entered with, and how often it has been flipped
since, which happens while it is the innermost one. -/
structure Conditional where
  condition : Bool
  flips : Nat
deriving DecidableEq, Repr

namespace Conditional

/-- The conditional by itself is in a branch that counts. -/
def Counts (c : Conditional) : Prop := c.condition ≠ decide (Odd c.flips)

instance : DecidablePred Counts := fun c => inferInstanceAs (Decidable (c.condition ≠ _))

/-- The conditional with one more flip. -/
def flipped (c : Conditional) : Conditional := { c with flips := c.flips + 1 }

theorem counts_new (condition : Bool) : Counts ⟨condition, 0⟩ ↔ condition = true := by
  simp [Counts]

/-- A flip leads from a branch that counts to one that does not, and back. -/
theorem counts_flipped (c : Conditional) : c.flipped.Counts ↔ ¬ c.Counts := by
  have hodd : Odd (c.flips + 1) ↔ ¬ Odd c.flips := Nat.odd_add_one
  unfold Counts flipped
  by_cases h : Odd c.flips <;> cases c.condition <;> simp [hodd, h]

end Conditional

/-- The open conditionals behind a move, the innermost first. A flip or the end of a conditional is
nothing where none is open. -/
def track : List Conditional → Move → List Conditional
  | cs, .enter condition => ⟨condition, 0⟩ :: cs
  | [], .flip => []
  | c :: cs, .flip => c.flipped :: cs
  | [], .leave => []
  | _ :: cs, .leave => cs

/-- The open conditionals behind some moves, where none was open. -/
def opened (ms : List Move) : List Conditional := ms.foldl track []

/-! ## What the truth values say -/

/-- Each conditional counts, and so do all those around it. The file around them all counts. -/
def truths : List Conditional → List Bool
  | [] => [true]
  | c :: cs => decide (∀ d ∈ c :: cs, d.Counts) :: truths cs

@[simp] theorem length_truths (cs : List Conditional) : (truths cs).length = cs.length + 1 := by
  induction cs with
  | nil => rfl
  | cons c cs ih => rw [truths, List.length_cons, List.length_cons, ih]

/-- The innermost truth value speaks for all open conditionals. -/
theorem truths_eq_cons (cs : List Conditional) :
    ∃ outer, truths cs = decide (∀ c ∈ cs, c.Counts) :: outer := by
  cases cs with
  | nil => exact ⟨[], rfl⟩
  | cons c cs => exact ⟨truths cs, rfl⟩

theorem isActive_of_truths {b : Branches} {cs : List Conditional} (h : b.levels = truths cs) :
    b.isActive = decide (∀ c ∈ cs, c.Counts) := by
  obtain ⟨outer, houter⟩ := truths_eq_cons cs
  rw [isActive, h, houter]
  rfl

theorem levels_of_truths_cons {b : Branches} {c : Conditional} {cs : List Conditional}
    (h : b.levels = truths (c :: cs)) :
    ∃ outer, truths cs = decide (∀ d ∈ cs, d.Counts) :: outer ∧
      b.levels = decide (∀ d ∈ c :: cs, d.Counts) :: decide (∀ d ∈ cs, d.Counts) :: outer := by
  obtain ⟨outer, houter⟩ := truths_eq_cons cs
  exact ⟨outer, houter, by rw [h, truths, houter]⟩

/-- The truth value that a flip leads to. Where a conditional around does not count, the innermost
one was false whatever it is by itself, and is false again. -/
theorem counts_all_flipped (c : Conditional) (cs : List Conditional) :
    decide (∀ d ∈ c.flipped :: cs, d.Counts) =
      (decide (∀ d ∈ cs, d.Counts) && !decide (∀ d ∈ c :: cs, d.Counts)) := by
  have hflipped := c.counts_flipped
  by_cases hall : ∀ d ∈ cs, d.Counts <;> by_cases hc : c.Counts <;> simp_all

/-- Every move keeps up what the truth values say. -/
theorem levels_attempt {b : Branches} {cs : List Conditional} (h : b.levels = truths cs)
    (m : Move) : (b.attempt m).levels = truths (track cs m) := by
  cases m with
  | enter condition =>
    show (b.isActive && condition) :: b.levels = _
    rw [isActive_of_truths h, h, track, truths]
    congr 1
    have hnew := Conditional.counts_new condition
    cases condition <;> simp_all
  | flip =>
    show b.flip.2.levels = _
    cases cs with
    | nil =>
      obtain rfl : b = none := ext h
      rfl
    | cons c cs =>
      obtain ⟨outer, houter, hb⟩ := levels_of_truths_cons h
      obtain ⟨base, hr⟩ := flip_of_levels hb
      rw [hr, track, truths, counts_all_flipped, houter]
  | leave =>
    show b.leave.2.levels = _
    cases cs with
    | nil =>
      obtain rfl : b = none := ext h
      rfl
    | cons c cs =>
      obtain ⟨outer, houter, hb⟩ := levels_of_truths_cons h
      obtain ⟨base, hr⟩ := leave_of_levels hb
      rw [hr, track, houter]

/-- And so do all moves together. -/
theorem levels_foldl {b : Branches} {cs : List Conditional} (h : b.levels = truths cs)
    (ms : List Move) : (ms.foldl attempt b).levels = truths (ms.foldl track cs) := by
  induction ms generalizing b cs with
  | nil => exact h
  | cons m ms ih => exact ih (levels_attempt h m)

theorem levels_after (ms : List Move) : (after ms).levels = truths (opened ms) := by
  have hnone : none.levels = truths [] := rfl
  exact levels_foldl hnone ms

theorem depth_after (ms : List Move) : (after ms).depth = (opened ms).length := by
  rw [depth, levels_after, length_truths, Nat.add_sub_cancel]

theorem isActive_after (ms : List Move) :
    (after ms).isActive = true ↔ ∀ c ∈ opened ms, c.Counts := by
  rw [isActive_of_truths (levels_after ms), decide_eq_true_eq]

/-- What is known of the branches behind any moves. -/
theorem after_moves (ms : List Move) :
    (after ms).depth = (opened ms).length ∧
    ((after ms).isActive = true ↔ ∀ c ∈ opened ms, c.condition ≠ decide (Odd c.flips)) ∧
    (∀ e, (after ms).flip.1 = .error e ↔ (after ms).depth = 0 ∧ e = .unmatchedElse) ∧
    (∀ e, (after ms).leave.1 = .error e ↔ (after ms).depth = 0 ∧ e = .unmatchedEnd) ∧
    (∀ m e, (m.apply (after ms)).1 = .error e → after (ms ++ [m]) = after ms) ∧
    ((after ms).finish = .ok () ↔ (after ms).depth = 0) ∧
    (∀ e, (after ms).finish = .error e ↔
      (after ms).depth ≠ 0 ∧ e = .unterminated (after ms).depth) := by
  refine ⟨depth_after ms, isActive_after ms, fun e => flip_eq_error_iff,
    fun e => leave_eq_error_iff, fun m e h => ?_, finish_eq_ok_iff, fun e => finish_eq_error_iff⟩
  rw [after_concat, attempt_of_error h]

end BoardLint.Branches
