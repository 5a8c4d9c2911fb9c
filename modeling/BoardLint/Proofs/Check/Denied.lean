import BoardLint.Check
import BoardLint.Proofs.Scan.Lines

/-!
# Denied warnings

To deny warnings should do no more than to promote them: the outcome is the one without the flag,
with all warnings as errors (`promoted`). This is what comes of every check but one kind: where the
chip of a board cannot be told, the check ends before warnings are promoted, and those of the scan
stay warnings (`UndecidedWithWarnings`).
-/

namespace BoardLint

variable {decode : Schema.Document.Reader} {disk : Disk} {header sdk : Path} {suggestion : Bool}

/-- The outcome of a check, with warnings as errors. A fatal failure stays as it is. -/
def promoted : Except (Failure Issue) Report → Except (Failure Issue) Report
  | .error ⟨.fatal, found⟩ => .error ⟨.fatal, found⟩
  | .error ⟨.rejected, found⟩ => .error (.rejected { errors := found.errors ++ found.warnings })
  | .ok report =>
    if report.warnings.isEmpty then .ok report else .error (.rejected { errors := report.warnings })

/-- Options with and without the flag. -/
def Options.denying (sdk : Path) (suggestion deny : Bool) : Options :=
  ⟨sdk, { denyWarnings := deny, requireSuggestion := suggestion }⟩

/-- The scan of the header ends with warnings, and the chip of its board cannot be told. -/
def UndecidedWithWarnings (disk : Disk) (header : Path) : Prop :=
  ∃ b found, scan disk header = .ok (b, found) ∧ (Audit.identify b).1 = none ∧ found.warnings ≠ []

/-! ## The ends of a check -/

theorem conclude_denying (chip : Chip) (found : Findings Issue) :
    conclude (Options.denying sdk suggestion true).flags chip found =
      promoted (conclude (Options.denying sdk suggestion false).flags chip found) := by
  obtain ⟨errors, warnings⟩ := found
  cases errors with
  | nil => cases warnings <;> rfl
  | cons e errors => rfl

/-- The audit itself knows nothing of denied warnings. -/
theorem audit_denying (b : Board) (found : Findings Issue) (deny : Bool) :
    audit decode disk (.denying sdk suggestion deny) b found =
      audit decode disk (.denying sdk suggestion false) b found := rfl

/-- Where the chip can be told, an audit fails with a fatal error or not at all. -/
theorem fatal_of_audit_eq_error {options : Options} {b : Board} {found : Findings Issue}
    {failure : Failure Issue} (hid : (Audit.identify b).1 ≠ none)
    (h : audit decode disk options b found = .error failure) : failure.severity = .fatal := by
  unfold audit at h
  rcases hb : Audit.identify b with ⟨_ | chip, more⟩
  · exact absurd (congrArg Prod.fst hb) hid
  · rw [hb] at h
    dsimp only at h
    cases hload : Schema.load decode disk (chip.schemaPath options.sdk) with
    | error e =>
      rw [hload] at h
      rw [← Except.error.inj h]
      rfl
    | ok schema =>
      rw [hload] at h
      exact absurd h nofun

/-- A chip that cannot be told is an error, and nothing else. -/
theorem identify_eq_none {b : Board} {more : Findings Issue}
    (h : Audit.identify b = (none, more)) : ∃ i l, more = .error i l := by
  unfold Audit.identify at h
  split at h
  · exact absurd h nofun
  · split at h
    · exact ⟨_, _, (Prod.mk.inj h).2.symm⟩
    · exact absurd h nofun

theorem check_of_undecided {b : Board} {found more : Findings Issue}
    (hscan : scan disk header = .ok (b, found)) (hid : Audit.identify b = (none, more))
    (options : Options) :
    check decode disk header options = .error (.rejected (found ++ more)) := by
  unfold check
  rw [hscan]
  dsimp only
  unfold audit
  rw [hid]

theorem check_of_decided {b : Board} {found : Findings Issue}
    (hscan : scan disk header = .ok (b, found)) (hid : (Audit.identify b).1 ≠ none) :
    check decode disk header (.denying sdk suggestion true) =
      promoted (check decode disk header (.denying sdk suggestion false)) := by
  unfold check
  rw [hscan]
  dsimp only
  rw [audit_denying]
  cases haudit : audit decode disk (.denying sdk suggestion false) b found with
  | ok result => exact conclude_denying result.1 result.2
  | error failure =>
    obtain ⟨severity, findings⟩ := failure
    obtain rfl : severity = .fatal := fatal_of_audit_eq_error hid haudit
    rfl

/-! ## Promotion -/

/-- Without such a header, to deny warnings promotes them and does nothing else. -/
theorem check_denying (h : ¬ UndecidedWithWarnings disk header) :
    check decode disk header (.denying sdk suggestion true) =
      promoted (check decode disk header (.denying sdk suggestion false)) := by
  cases hscan : scan disk header with
  | error halt =>
    unfold check
    rw [hscan]
    rfl
  | ok result =>
    obtain ⟨b, found⟩ := result
    rcases hid : Audit.identify b with ⟨_ | chip, more⟩
    · have hwarnings : (found ++ more).warnings = [] := by
        obtain ⟨i, l, rfl⟩ := identify_eq_none hid
        rw [Findings.warnings_append, Findings.warnings_error, List.append_nil]
        exact Classical.byContradiction fun hne => h ⟨b, found, hscan, by rw [hid], hne⟩
      rw [check_of_undecided hscan hid, check_of_undecided hscan hid]
      generalize found ++ more = all at hwarnings ⊢
      obtain ⟨errors, warnings⟩ := all
      obtain rfl : warnings = [] := hwarnings
      exact congrArg (fun e => Except.error (Failure.rejected ⟨e, []⟩))
        (List.append_nil errors).symm
    · refine check_of_decided hscan ?_
      rw [hid]
      exact nofun

/-- With such a header, to deny warnings does nothing, and the header is rejected with warnings. -/
theorem check_of_undecidedWithWarnings (h : UndecidedWithWarnings disk header) (sdk : Path)
    (suggestion : Bool) :
    ∃ found, found.warnings ≠ [] ∧
      check decode disk header (.denying sdk suggestion false) = .error (.rejected found) ∧
      check decode disk header (.denying sdk suggestion true) = .error (.rejected found) := by
  obtain ⟨b, found, hscan, hnone, hwarnings⟩ := h
  rcases hid : Audit.identify b with ⟨chip, more⟩
  obtain rfl : chip = none := (congrArg Prod.fst hid).symm.trans hnone
  refine ⟨found ++ more, ?_, check_of_undecided hscan hid _, check_of_undecided hscan hid _⟩
  rw [Findings.warnings_append]
  exact List.append_ne_nil_of_left_ne_nil hwarnings _

theorem check_ne_promoted (h : UndecidedWithWarnings disk header) (sdk : Path)
    (suggestion : Bool) :
    check decode disk header (.denying sdk suggestion true) ≠
      promoted (check decode disk header (.denying sdk suggestion false)) := by
  obtain ⟨found, hwarnings, hplain, hdenied⟩ := check_of_undecidedWithWarnings h sdk suggestion
  intro hpromoted
  rw [hplain, hdenied] at hpromoted
  have hfound : found = { errors := found.errors ++ found.warnings } :=
    congrArg Failure.findings (Except.error.inj hpromoted)
  exact hwarnings (congrArg Findings.warnings hfound)

/-- To deny warnings promotes them and does nothing else, with one exception: where the chip cannot
be told after a scan with warnings, it does nothing at all, and the header is rejected with
warnings. -/
theorem check_denyWarnings_iff (decode : Schema.Document.Reader) (disk : Disk) (header sdk : Path)
    (suggestion : Bool) :
    (check decode disk header (.denying sdk suggestion true) =
        promoted (check decode disk header (.denying sdk suggestion false)) ↔
      ¬ UndecidedWithWarnings disk header) ∧
    (UndecidedWithWarnings disk header →
      ∃ found, found.warnings ≠ [] ∧
        check decode disk header (.denying sdk suggestion false) = .error (.rejected found) ∧
        check decode disk header (.denying sdk suggestion true) = .error (.rejected found)) :=
  ⟨⟨fun hpromoted h => check_ne_promoted h sdk suggestion hpromoted, check_denying⟩,
    fun h => check_of_undecidedWithWarnings h sdk suggestion⟩

/-- A header that gives one define twice, and no platform. -/
def repeating : String := "#define A 1\n#define A 1\n"

/-- The disk that has this header and nothing else. -/
def repeatingDisk : Disk := Snapshot.disk [(⟨"a.h"⟩, .ok repeating)]

theorem undecided_repeating : UndecidedWithWarnings repeatingDisk ⟨"a.h"⟩ := by
  have hr : repeatingDisk.read ⟨"a.h"⟩ = .ok repeating := rfl
  have hscan : (scan repeatingDisk ⟨"a.h"⟩).toOption.any (fun result =>
      (Audit.identify result.1).1.isNone && !result.2.warnings.isEmpty) = true := by
    rw [scan, hr]
    dsimp only
    rw [Scan.scanSource_eq]
    decide +kernel
  cases hresult : scan repeatingDisk ⟨"a.h"⟩ with
  | error halt =>
    rw [hresult] at hscan
    exact absurd hscan nofun
  | ok result =>
    rw [hresult] at hscan
    obtain ⟨hnone, hwarnings⟩ := Bool.and_eq_true_iff.1 hscan
    exact ⟨result.1, result.2, hresult, Option.isNone_iff_eq_none.1 hnone,
      by simpa using hwarnings⟩

/-- So denying warnings is not always promotion. -/
theorem denied_warnings_stay_warnings :
    ¬ ∀ (disk : Disk) (header sdk : Path) (suggestion : Bool),
      check Schema.Document.ofText disk header (.denying sdk suggestion true) =
        promoted (check Schema.Document.ofText disk header (.denying sdk suggestion false)) :=
  fun h => check_ne_promoted undecided_repeating ⟨"."⟩ false (h repeatingDisk ⟨"a.h"⟩ ⟨"."⟩ false)

end BoardLint
