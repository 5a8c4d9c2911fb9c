import BoardLint.Proofs.Scan.Descent
import BoardLint.Proofs.Scan.Effects

/-!
# The log of a scan

Findings are only ever added to. What a line adds does not depend on what has been found before
(`findings_step`), so it can be written down line by line: `logLines` is the log of all that a
header and the headers it includes report, in the order in which their lines are read, up to the
line where the scan ends. The findings of a scan are those of its log and no others
(`findings_scanLines`), also if it ends early.

In between nothing is taken back: what was there before a line is there behind it, in its place,
with more behind it (`Keeps`).
-/

namespace BoardLint

namespace Findings

variable {ε : Type}

/-- All findings of some, in order. -/
def join (fs : List (Findings ε)) : Findings ε := ⟨fs.flatMap errors, fs.flatMap warnings⟩

@[simp] theorem errors_join (fs : List (Findings ε)) : (join fs).errors = fs.flatMap errors := rfl

@[simp] theorem warnings_join (fs : List (Findings ε)) :
    (join fs).warnings = fs.flatMap warnings := rfl

@[simp] theorem join_nil : join ([] : List (Findings ε)) = ∅ := rfl

@[simp] theorem join_cons (f : Findings ε) (fs : List (Findings ε)) :
    join (f :: fs) = f ++ join fs := by
  ext1 <;> simp

@[simp] theorem join_append (fs gs : List (Findings ε)) :
    join (fs ++ gs) = join fs ++ join gs := by
  ext1 <;> simp

end Findings

namespace Scan

variable {c : Context} {chain : List Path} {header : Header}

/-! ## What stays behind a line -/

/-- Everything that was there is there still, and in its place. -/
structure Keeps (s s' : State) : Prop where
  errors : s.findings.errors <+: s'.findings.errors
  warnings : s.findings.warnings <+: s'.findings.warnings
  entries : ∀ space, (s.symbols.table space).entries <+: (s'.symbols.table space).entries
  markers : s.markers.Kept s'.markers

theorem Keeps.refl (s : State) : Keeps s s :=
  ⟨List.prefix_refl _, List.prefix_refl _, fun _ => List.prefix_refl _, .refl _⟩

theorem Keeps.trans {s s' s'' : State} (h : Keeps s s') (h' : Keeps s' s'') : Keeps s s'' :=
  ⟨h.errors.trans h'.errors, h.warnings.trans h'.warnings,
    fun space => (h.entries space).trans (h'.entries space), h.markers.trans h'.markers⟩

theorem keeps_report (s : State) (f : Findings Issue) : Keeps s (s.report f) :=
  ⟨List.prefix_append .., List.prefix_append .., fun _ => List.prefix_refl _, .refl _⟩

theorem Effects.keeps {d : Directive} {l : Location} {s s' : State} (h : Effects d l s s') :
    Keeps s s' := by
  obtain ⟨f, hf, -⟩ := h.findings
  refine ⟨?_, ?_, fun space => ?_, h.markers⟩
  · rw [hf]
    exact List.prefix_append ..
  · rw [hf]
    exact List.prefix_append ..
  · rcases h.symbols with hsame | ⟨call, -, hcall⟩
    · exact hsame ▸ List.prefix_refl _
    · rw [hcall]
      exact Symbols.entries_isPrefix_apply s.symbols call space

theorem keeps_respected (c : Context) : Respected c (fun _ => True) Keeps where
  refl := .refl
  trans := .trans
  step _ _ _ _ := (step_effects ..).keeps
  unreadable _ _ _ _ s := keeps_report s _

/-- A line keeps everything, whatever it includes and however it ends. -/
theorem Visit.readLine_keeps {v : Visit} {n : Nat} {text : String} {p : Point}
    (hline : v.header.source.lines[n]? = some text) (hp : v.Comes c n p) :
    Keeps p.state
      (left ((readLine c v.chain v.header p (Source.lineNumber n, text)).map Point.state)) :=
  Visit.readLine_respects (keeps_respected c) (fun _ _ => trivial) hline hp

/-! ## What a line reports -/

/-- The state before anything was found. -/
def State.silent (s : State) : State := { s with findings := ∅ }

/-- A report comes behind all that has been found before. -/
theorem findings_report (s : State) (f : Findings Issue) :
    (s.report f).findings = s.findings ++ (s.silent.report f).findings :=
  congrArg (s.findings ++ ·) (Findings.empty_append f).symm

theorem findings_self (s : State) : s.findings = s.findings ++ s.silent.findings :=
  (Findings.append_empty _).symm

/-- A directive reports the same, whatever has been found before. -/
theorem findings_perform (expected : ExpectedNames) (header : Header) (n : UInt32) (d : Directive)
    (frame : Frame) (s : State) :
    (perform expected header n d frame s).state.findings =
      s.findings ++ (perform expected header n d frame s.silent).state.findings := by
  have hactive : ∀ {r r' : Step}, r.state.findings = s.findings ++ r'.state.findings →
      (if frame.branches.isActive then r else .next frame s).state.findings =
        s.findings ++
          (if frame.branches.isActive then r' else .next frame s.silent).state.findings := by
    intro r r' hr
    split
    · exact hr
    · exact findings_self s
  cases d with
  | elseBranch =>
    unfold perform Step.ofBranches
    rcases frame.branches.flip with ⟨_ | _, branches⟩ <;> exact findings_self s
  | endIf =>
    unfold perform Step.ofBranches
    rcases frame.branches.leave with ⟨_ | _, branches⟩ <;> exact findings_self s
  | ifTrue negated name =>
    unfold perform ifTrue
    dsimp only
    split
    · exact findings_report s _
    · exact findings_self s
  | ifDefined name => exact findings_self s
  | ifUndefined name => exact findings_self s
  | unsupported word condition => exact findings_report s _
  | boardDetection => exact findings_self s
  | includeSuggestion path =>
    unfold perform includeSuggestion
    dsimp only
    split
    · exact findings_report s _
    · exact findings_self s
  | setting form kind name value =>
    refine hactive ?_
    simp only [setting, Step.state, State.silent, Findings.empty_append, Findings.append_assoc]
  | define name value =>
    refine hactive ?_
    simp only [define, Step.state, State.silent, Findings.empty_append, Findings.append_assoc]
  | includeFile path =>
    refine hactive ?_
    unfold includeFile
    split
    · exact findings_self s
    · exact findings_report s _
  | unrecognized => exact hactive (findings_self s)

/-- What a line reports: what would be found behind it if nothing had been found before. -/
def reported (expected : ExpectedNames) (header : Header) (n : UInt32) (text : String)
    (frame : Frame) (s : State) : Findings Issue :=
  (step expected header n text frame s.silent).state.findings

theorem findings_step (expected : ExpectedNames) (header : Header) (n : UInt32) (text : String)
    (frame : Frame) (s : State) :
    (step expected header n text frame s).state.findings =
      s.findings ++ reported expected header n text frame s := by
  unfold reported step
  dsimp only
  rw [findings_perform, findings_perform expected header n _ frame (s.silent.report _)]
  simp only [State.report, State.silent, Findings.empty_append, Findings.append_assoc]

/-! ## The log -/

/-- All that the rest of a header reports, one entry for each line that is read. Behind an active
include follows the log of the header that it enters. -/
def logLines (c : Context) (chain : List Path) (header : Header) (lines : List (UInt32 × String))
    (frame : Frame) (state : State) : List (Findings Issue) :=
  match lines with
  | [] => []
  | (n, line) :: rest =>
    reported c.expected header n line frame state ::
      match step c.expected header n line frame state with
      | .next frame state => logLines c chain header rest frame state
      | .stop .. => []
      | .descend name frame state =>
        let target := c.directory.child name
        let l := Location.atLine header.source n
        let entered :=
          if _new : isOpen chain target then []
          else
            match _found : c.disk.read target with
            | .error reason => [.error (.unreadable target reason) l]
            | .ok text =>
              let source := Source.ofText target text
              logLines c (chain ++ [target]) ⟨source, false⟩ source.numberedLines {} state
        match enterFile c chain l name state with
        | .ok state => entered ++ logLines c chain header rest frame state
        | .error _ => entered
termination_by (enterable c chain, lines.length)
decreasing_by
  · exact Prod.Lex.right _ (Nat.lt_succ_self _)
  · exact Prod.Lex.left _ _ (enterable_append_lt _found _new)
  · exact Prod.Lex.right _ (Nat.lt_succ_self _)

/-- What has been found at the end, be it early, is what was found before and all of the log. -/
theorem findings_scanLines (c : Context) (chain : List Path) (header : Header)
    (lines : List (UInt32 × String)) (frame : Frame) (s : State) :
    (left (scanLines c chain header lines frame s)).findings =
      s.findings ++ .join (logLines c chain header lines frame s) := by
  fun_induction logLines c chain header lines frame s with
  | case1 chain header frame s =>
    rw [scanLines_eq, left_closeFile, Findings.join_nil, Findings.append_empty]
    rfl
  | case2 chain header frame s n line rest ihrest ihenter =>
    have hrest : ∀ f t, (left ((readLines c chain header rest ⟨f, t⟩).bind
        (closeFile header))).findings =
          t.findings ++ .join (logLines c chain header rest f t) := by
      intro f t
      rw [← scanLines_eq]
      exact ihrest f t
    rw [scanLines_eq, readLines_cons, readLine, Findings.join_cons, ← Findings.append_assoc,
      ← findings_step]
    cases step c.expected header n line frame s with
    | next frame' s' => exact hrest frame' s'
    | stop cause s' => exact (Findings.append_empty _).symm
    | descend name frame' s' =>
      dsimp only [Step.state]
      by_cases hopen : isOpen chain (c.directory.child name) = true
      · rw [enterFile_of_open hopen]
        dsimp only
        rw [dif_pos hopen]
        exact (Findings.append_empty _).symm
      · cases hread : c.disk.read (c.directory.child name) with
        | error reason =>
          rw [enterFile_of_unreadable hopen hread]
          dsimp only
          rw [dif_neg hopen, List.singleton_append, Findings.join_cons, ← Findings.append_assoc]
          exact hrest frame' _
        | ok text =>
          have hinner := ihenter name s' hopen text hread
          dsimp only at hinner
          rw [enterFile_of_text hopen hread, dif_neg hopen]
          cases hscan : scanLines c (chain ++ [c.directory.child name]) _ _ {} s' with
          | ok s'' =>
            rw [hscan] at hinner
            rw [Findings.join_append, ← Findings.append_assoc, ← hinner]
            exact hrest frame' s''
          | error halt =>
            rw [hscan] at hinner
            exact hinner

end Scan

end BoardLint
