import BoardLint.Proofs.Check.Denied
import BoardLint.Proofs.Scan.Log
import BoardLint.Proofs.Scan.Provenance

/-!
# No finding is lost

The findings of a check go through three hands: the scan, the audit and the conclusion. `checkLog`
says what the first two report, and at which error the check breaks off, with no regard to what they
hand on. `nothing_lost` says that this log is what comes out: the errors and the warnings of a
failure are those of the log, in their order, and a check without errors in its log is the only one
that succeeds.
-/

namespace BoardLint

open Scan Audit

/-- What a check reports, in order. -/
structure Log where
  /-- What the lines of the headers report. -/
  scanned : List (Findings Issue)
  /-- What the parts of the audit report. -/
  audited : List (Findings Issue)
  /-- The error at which the check breaks off. -/
  fatal : Option (Located Issue)

namespace Log

/-- All errors: those of the scan, those of the audit, and the one at which the check breaks off. -/
def errors (log : Log) : List (Located Issue) :=
  log.scanned.flatMap (·.errors) ++ log.audited.flatMap (·.errors) ++ log.fatal.toList

/-- All warnings: those of the scan, and those of the audit. -/
def warnings (log : Log) : List (Located Issue) :=
  log.scanned.flatMap (·.warnings) ++ log.audited.flatMap (·.warnings)

/-- All findings, but for the error at which the check breaks off. -/
def findings (log : Log) : Findings Issue := .join log.scanned ++ .join log.audited

theorem errors_eq (log : Log) : log.errors = log.findings.errors ++ log.fatal.toList := rfl

end Log

/-- What the scan of a header reports. -/
def scanLog (disk : Disk) (path : Path) : List (Findings Issue) :=
  match disk.read path with
  | .error _ => []
  | .ok text =>
    let source := Source.ofText path text
    logLines (.ofPath disk path) [path] ⟨source, true⟩ source.numberedLines {} (start source).state

/-- What the audit of a board reports, and the error at which it breaks off. -/
def auditLog (decode : Schema.Document.Reader) (disk : Disk) (options : Options) (b : Board) :
    List (Findings Issue) × Option (Located Issue) :=
  match identify b with
  | (none, more) => ([more], none)
  | (some chip, more) =>
    match Schema.load decode disk (chip.schemaPath options.sdk) with
    | .error e => ([more], some ⟨.schema e.cause, e.location⟩)
    | .ok schema =>
      ([more, definesFindings b.symbols chip schema, markersFindings b options.flags], none)

/-- What the check of a header reports. Only the header of a scan that ends is audited. -/
def checkLog (decode : Schema.Document.Reader) (disk : Disk) (header : Path) (options : Options) :
    Log :=
  match scan disk header with
  | .error halt => ⟨scanLog disk header, [], some halt.cause⟩
  | .ok (b, _) =>
    ⟨scanLog disk header, (auditLog decode disk options b).1,
      (auditLog decode disk options b).2⟩

variable {disk : Disk} {header : Path} {options : Options}

/-! ## From hand to hand -/

/-- A scan hands on what it has reported, and so does one that ends early. -/
theorem findings_record (disk : Disk) (path : Path) :
    (record disk path).findings = .join (scanLog disk path) := by
  unfold scanLog
  cases hread : disk.read path with
  | error reason =>
    rw [record_of_unread hread]
    rfl
  | ok text =>
    rw [record_of_text hread]
    exact (findings_scanLines ..).trans (Findings.empty_append _)

/-- How a check ends, given all its findings and the error at which it breaks off. -/
inductive Ends (flags : Flags) (found : Findings Issue) :
    Option (Located Issue) → Except (Failure Issue) Report → Prop
  | fatal (e : Located Issue) : Ends flags found (some e) (.error (.fatal found e))
  /-- The chip cannot be told. -/
  | undecided (rejected : found.errors ≠ []) : Ends flags found none (.error (.rejected found))
  | concluded (chip : Chip) : Ends flags found none (conclude flags chip found)

/-- A check ends with the findings of its log. -/
theorem check_ends (decode : Schema.Document.Reader) (disk : Disk) (header : Path)
    (options : Options) :
    Ends options.flags (checkLog decode disk header options).findings
      (checkLog decode disk header options).fatal (check decode disk header options) := by
  have hrecord := findings_record disk header
  unfold record at hrecord
  unfold checkLog check
  cases hscan : scan disk header with
  | error halt =>
    rw [hscan] at hrecord
    dsimp only [Log.findings]
    rw [Findings.join_nil, Findings.append_empty, ← hrecord]
    exact .fatal halt.cause
  | ok result =>
    obtain ⟨b, found⟩ := result
    rw [hscan] at hrecord
    dsimp only [Log.findings] at hrecord ⊢
    rw [← hrecord]
    unfold audit auditLog
    rcases hid : identify b with ⟨_ | chip, more⟩
    · obtain ⟨i, l, rfl⟩ := identify_eq_none hid
      dsimp only
      rw [Findings.join_cons, Findings.join_nil, Findings.append_empty]
      exact .undecided (List.append_ne_nil_of_right_ne_nil _ (List.cons_ne_nil _ _))
    · dsimp only
      cases Schema.load decode disk (chip.schemaPath options.sdk) with
      | error e =>
        dsimp only
        rw [Findings.join_cons, Findings.join_nil, Findings.append_empty]
        exact .fatal _
      | ok schema =>
        dsimp only
        simp only [Findings.join_cons, Findings.join_nil, Findings.append_empty]
        rw [← Findings.append_assoc, ← Findings.append_assoc]
        exact .concluded chip

/-! ## What comes out -/

/-- A conclusion rejects with all findings, or succeeds with all warnings. -/
theorem conclude_cases (flags : Flags) (chip : Chip) (found : Findings Issue) :
    (∃ all, conclude flags chip found = .error (.rejected all) ∧ all.errors ≠ [] ∧
      (flags.denyWarnings = false → all = found)) ∨
    (conclude flags chip found = .ok ⟨chip, found.warnings⟩ ∧ found.errors = []) := by
  unfold conclude
  dsimp only
  generalize hall : (if flags.denyWarnings = true then found.denyWarnings else found) = all
  have hsame : flags.denyWarnings = false → all = found := fun hd => by
    rw [← hall, hd, if_neg Bool.false_ne_true]
  -- promoted warnings are errors, so where there are none there is no warning either
  have hclean : all.errors = [] → all.warnings = found.warnings ∧ found.errors = [] := by
    rw [← hall]
    split
    · intro h
      obtain ⟨herrors, hwarnings⟩ := List.append_eq_nil_iff.1 h
      exact ⟨hwarnings.symm, herrors⟩
    · exact fun h => ⟨rfl, h⟩
  cases herrors : all.errors with
  | nil =>
    obtain ⟨hwarnings, hnone⟩ := hclean herrors
    refine .inr ⟨?_, hnone⟩
    rw [← hwarnings]
    rfl
  | cons e es => exact .inl ⟨all, rfl, herrors ▸ List.cons_ne_nil e es, hsame⟩

section Ends

variable {flags : Flags} {found : Findings Issue} {fatal : Option (Located Issue)}
  {result : Except (Failure Issue) Report}

/-- A failure has an error, and all that was found unless warnings are denied. -/
theorem Ends.of_error {f : Failure Issue} (h : Ends flags found fatal result)
    (hf : result = .error f) :
    f.errors ≠ [] ∧ (f.severity = .fatal ↔ fatal.isSome = true) ∧
      (flags.denyWarnings = false →
        f.errors = found.errors ++ fatal.toList ∧ f.warnings = found.warnings) := by
  cases h with
  | fatal e =>
    obtain rfl := Except.error.inj hf
    exact ⟨List.append_ne_nil_of_right_ne_nil _ (List.cons_ne_nil _ _), iff_of_true rfl rfl,
      fun _ => ⟨rfl, rfl⟩⟩
  | undecided rejected =>
    obtain rfl := Except.error.inj hf
    exact ⟨rejected, iff_of_false nofun nofun, fun _ => ⟨(List.append_nil _).symm, rfl⟩⟩
  | concluded chip =>
    rcases conclude_cases flags chip found with ⟨all, hall, herrors, hsame⟩ | ⟨hok, -⟩
    · obtain rfl := Except.error.inj (hall.symm.trans hf)
      refine ⟨herrors, iff_of_false nofun nofun, fun hd => ?_⟩
      rw [hsame hd]
      exact ⟨(List.append_nil _).symm, rfl⟩
    · exact absurd (hok.symm.trans hf) nofun

/-- A report has all warnings, and there are no errors. -/
theorem Ends.of_ok {r : Report} (h : Ends flags found fatal result) (hr : result = .ok r) :
    r.warnings = found.warnings ∧ found.errors = [] ∧ fatal = none := by
  cases h with
  | fatal e => exact absurd hr nofun
  | undecided rejected => exact absurd hr nofun
  | concluded chip =>
    rcases conclude_cases flags chip found with ⟨all, hall, -⟩ | ⟨hok, herrors⟩
    · exact absurd (hall.symm.trans hr) nofun
    · obtain rfl := Except.ok.inj (hok.symm.trans hr)
      exact ⟨rfl, herrors, rfl⟩

end Ends

/-- No finding of a check is lost. -/
structure NothingLost (decode : Schema.Document.Reader) (disk : Disk) (header : Path)
    (options : Options) : Prop where
  /-- A line keeps all that was there before, with all that it includes, and also if the scan ends
  at it. -/
  lines : ∀ {text v n line p}, disk.read header = .ok text →
    Visited (.ofPath disk header) (.ofText header text) v →
    v.header.source.lines[n]? = some line → v.Comes (.ofPath disk header) n p →
    Keeps p.state
      (left ((readLine (.ofPath disk header) v.chain v.header p
        (Source.lineNumber n, line)).map Point.state))
  /-- If warnings are not denied, a failure has all errors and all warnings of the log. -/
  failure : ∀ {f}, check decode disk header options = .error f →
    options.flags.denyWarnings = false → f.errors = (checkLog decode disk header options).errors ∧
      f.warnings = (checkLog decode disk header options).warnings
  /-- The last error of a fatal failure is the one at which the check has broken off. -/
  fatal : ∀ {f}, check decode disk header options = .error f →
    (f.severity = .fatal ↔ (checkLog decode disk header options).fatal.isSome = true)
  /-- A report has all warnings of the log. -/
  report : ∀ {r}, check decode disk header options = .ok r →
    r.warnings = (checkLog decode disk header options).warnings
  /-- A failure has an error. -/
  reason : ∀ {f}, check decode disk header options = .error f → f.errors ≠ []
  /-- A check that succeeds has no errors in its log. -/
  clean : ∀ {r}, check decode disk header options = .ok r →
    (checkLog decode disk header options).errors = []

/-- What is reported on the way is what comes out of a check, and nothing is lost in between. -/
theorem nothing_lost (decode : Schema.Document.Reader) (disk : Disk) (header : Path)
    (options : Options) : NothingLost decode disk header options where
  lines _ _ hline hp := Visit.readLine_keeps hline hp
  failure hf hd := ((check_ends decode disk header options).of_error hf).2.2 hd
  fatal hf := ((check_ends decode disk header options).of_error hf).2.1
  report hr := ((check_ends decode disk header options).of_ok hr).1
  reason hf := ((check_ends decode disk header options).of_error hf).1
  clean hr := by
    obtain ⟨-, herrors, hfatal⟩ := (check_ends decode disk header options).of_ok hr
    rw [Log.errors_eq, herrors, hfatal]
    rfl

end BoardLint
