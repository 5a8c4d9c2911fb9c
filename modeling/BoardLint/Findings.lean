import BoardLint.Source

/-!
# Findings

What a run has found so far: errors and warnings, each at a location and in the order in which they
were found. Findings are joined by `++`, so that a step may report what it adds and nothing else.

A run that fails is a `Failure`: it either broke off at a fatal error, or read everything and
rejects what it read.
-/

namespace BoardLint

/-- Something found at a location. -/
structure Located (ε : Type) where
  cause : ε
  location : Location
deriving DecidableEq, Repr

/-- Errors and warnings, in the order in which they were found. -/
structure Findings (ε : Type) where
  errors : List (Located ε) := []
  warnings : List (Located ε) := []
deriving DecidableEq, Repr

namespace Findings

variable {ε : Type}

instance : EmptyCollection (Findings ε) := ⟨{}⟩

instance : Inhabited (Findings ε) := ⟨∅⟩

instance : Append (Findings ε) where
  append f g := ⟨f.errors ++ g.errors, f.warnings ++ g.warnings⟩

/-- One error. -/
def error (cause : ε) (location : Location) : Findings ε := { errors := [⟨cause, location⟩] }

/-- One warning. -/
def warning (cause : ε) (location : Location) : Findings ε := { warnings := [⟨cause, location⟩] }

/-- One error, if there is reason for it. -/
def errorIf (reason : Prop) [Decidable reason] (cause : ε) (location : Location) : Findings ε :=
  if reason then error cause location else ∅

/-- All warnings become errors, behind those that are errors already. -/
def denyWarnings (f : Findings ε) : Findings ε := { errors := f.errors ++ f.warnings }

@[simp] theorem errors_append (f g : Findings ε) : (f ++ g).errors = f.errors ++ g.errors := rfl

@[simp] theorem warnings_append (f g : Findings ε) :
    (f ++ g).warnings = f.warnings ++ g.warnings := rfl

@[simp] theorem errors_empty : (∅ : Findings ε).errors = [] := rfl

@[simp] theorem warnings_empty : (∅ : Findings ε).warnings = [] := rfl

@[simp] theorem errors_error (c : ε) (l : Location) : (error c l).errors = [⟨c, l⟩] := rfl

@[simp] theorem warnings_error (c : ε) (l : Location) : (error c l).warnings = [] := rfl

@[simp] theorem errors_warning (c : ε) (l : Location) : (warning c l).errors = [] := rfl

@[simp] theorem warnings_warning (c : ε) (l : Location) : (warning c l).warnings = [⟨c, l⟩] := rfl

theorem errors_errorIf (p : Prop) [Decidable p] (c : ε) (l : Location) :
    (errorIf p c l).errors = if p then [⟨c, l⟩] else [] := by
  unfold errorIf
  split <;> rfl

@[simp] theorem warnings_errorIf (p : Prop) [Decidable p] (c : ε) (l : Location) :
    (errorIf p c l).warnings = [] := by
  unfold errorIf
  split <;> rfl

@[ext] theorem ext {f g : Findings ε} (he : f.errors = g.errors) (hw : f.warnings = g.warnings) :
    f = g := by
  cases f; cases g; simp_all

@[simp] theorem append_empty (f : Findings ε) : f ++ ∅ = f := by
  ext1 <;> simp

@[simp] theorem empty_append (f : Findings ε) : ∅ ++ f = f := by
  ext1 <;> simp

theorem append_assoc (f g h : Findings ε) : f ++ g ++ h = f ++ (g ++ h) := by
  ext1 <;> simp

end Findings

/-- How a run failed. -/
inductive Severity where
  /-- The run broke off: nothing else was checked. -/
  | fatal
  /-- Everything was read, and errors were found. -/
  | rejected
deriving DecidableEq, Repr

/-- A run that failed, with all it found. -/
structure Failure (ε : Type) where
  severity : Severity
  findings : Findings ε
deriving DecidableEq, Repr

namespace Failure

variable {ε : Type}

/-- A run that broke off at a fatal error, which comes last. -/
def fatal (found : Findings ε) (cause : Located ε) : Failure ε :=
  ⟨.fatal, { found with errors := found.errors ++ [cause] }⟩

/-- A run that found errors. -/
def rejected (found : Findings ε) : Failure ε := ⟨.rejected, found⟩

/-- All errors, the fatal one included. -/
abbrev errors (f : Failure ε) : List (Located ε) := f.findings.errors

/-- All warnings. -/
abbrev warnings (f : Failure ε) : List (Located ε) := f.findings.warnings

end Failure

/-! ## Outcomes

What is made out of an outcome is a value or an error as the outcome is one, whatever the errors
are. -/

section Outcomes

variable {ε ε' α β : Type} {x : Except ε α}

theorem bind_eq_ok_iff {f : α → Except ε β} {b : β} :
    x.bind f = .ok b ↔ ∃ a, x = .ok a ∧ f a = .ok b := by
  cases x <;> simp [Except.bind]

theorem map_eq_ok_iff {f : α → β} {b : β} : x.map f = .ok b ↔ ∃ a, x = .ok a ∧ f a = b := by
  cases x <;> simp [Except.map]

theorem map_eq_error_iff {f : α → β} {e : ε} : x.map f = .error e ↔ x = .error e := by
  cases x <;> simp [Except.map]

theorem exists_map_eq_ok_iff {f : α → β} : (∃ b, x.map f = .ok b) ↔ ∃ a, x = .ok a := by
  cases x <;> simp [Except.map]

theorem mapError_eq_ok_iff {f : ε → ε'} {a : α} : x.mapError f = .ok a ↔ x = .ok a := by
  cases x with
  | ok b =>
    show (.ok b : Except ε' α) = .ok a ↔ _
    simp
  | error e => exact iff_of_false nofun nofun

theorem mapError_eq_error_iff {f : ε → ε'} {e' : ε'} :
    x.mapError f = .error e' ↔ ∃ e, x = .error e ∧ f e = e' := by
  cases x with
  | ok a => exact iff_of_false nofun (fun ⟨_, h, _⟩ => nomatch h)
  | error e =>
    show (.error (f e) : Except ε' α) = .error e' ↔ _
    simp

theorem exists_eq_error_iff : (∃ e, x = .error e) ↔ ¬ ∃ a, x = .ok a := by
  cases x <;> simp

theorem toOption_eq_some_iff {a : α} : x.toOption = some a ↔ x = .ok a := by
  cases x <;> simp [Except.toOption]

end Outcomes

end BoardLint
