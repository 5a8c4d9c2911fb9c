import BoardLint.Proofs.Scan.Lines
import BoardLint.Proofs.Symbols.Relocate

/-!
# Scans without the texts of sources

A location holds the text of its source, for those who read a report. `plain` forgets it, and no
line of a header notices (`step_plain`); so scans that only differ in such texts end alike
(`scanLines_plain`). A descent never returns to a header that is open, so that nothing depends on
what the disk has in the place of one.
-/

namespace BoardLint

/-- The location without the text of its source. -/
def Location.plain (l : Location) : Location := ⟨.unread l.source.path, l.line⟩

@[simp] theorem Location.line_plain (l : Location) : l.plain.line = l.line := rfl

@[simp] theorem Issue.message_plain (i : Issue) : (i.relocate .plain).message = i.message := by
  cases i <;> rfl

namespace Scan

/-! ## One line -/

/-- The header without its text. -/
def Header.plain (h : Header) : Header := ⟨.unread h.source.path, h.isRoot⟩

/-- The state without the texts of sources. -/
def State.plain (s : State) : State :=
  { s with symbols := s.symbols.relocate .plain, findings := s.findings.relocate .plain }

/-- The step without the texts of sources. -/
def Step.plain : Step → Step
  | next frame state => next frame state.plain
  | descend name frame state => descend name frame state.plain
  | stop cause state => stop (cause.relocate .plain) state.plain

variable (expected : ExpectedNames) (header : Header) (n : UInt32) (frame : Frame) (state : State)
  (l : Location)

@[simp] theorem plain_atLine :
    (Location.atLine header.source n).plain = .atLine header.plain.source n := rfl

@[simp] theorem isRoot_plain : header.plain.isRoot = header.isRoot := rfl

@[simp] theorem symbols_plain : state.plain.symbols = state.symbols.relocate .plain := rfl

@[simp] theorem markers_plain : state.plain.markers = state.markers := rfl

@[simp] theorem findings_plain : state.plain.findings = state.findings.relocate .plain := rfl

@[simp] theorem report_plain (found : Findings Issue) :
    (state.report found).plain = state.plain.report (found.relocate .plain) := by
  simp [State.report, State.plain]

@[simp] theorem ofBranches_plain (r : Except NestingError Unit × Branches) :
    (Step.ofBranches frame state r).plain = .ofBranches frame state.plain r := by
  rcases r with ⟨_ | _, branches⟩ <;> rfl

theorem ifTrue_plain (negated : Bool) (name : String) :
    (ifTrue l negated name frame state).plain = ifTrue l.plain negated name frame state.plain := by
  unfold ifTrue
  simp only [symbols_plain, evaluate_relocate]
  split <;> simp [Step.plain]

theorem ifndefFindings_plain (preceding : Option String) (name : String) :
    (ifndefFindings preceding name l).relocate .plain = ifndefFindings preceding name l.plain := by
  unfold ifndefFindings
  split <;> simp [Issue.relocate]

theorem guardFindings_plain (s : Symbols) (preceding : Option String) (name : String)
    (value : Option String) :
    (guardFindings expected s preceding name value l).relocate .plain =
      guardFindings expected (s.relocate .plain) preceding name value l.plain := by
  simp [guardFindings, Symbols.declaredCount_relocate _ Location.line_plain, Issue.relocate]

theorem detectionFindings_plain (name : String) (value : Option String) :
    (detectionFindings expected name value l).relocate .plain =
      detectionFindings expected name value l.plain := by
  simp [detectionFindings, Issue.relocate]

theorem define_plain (name : String) (value : Option String) :
    (define expected header n name value frame state).plain =
      define expected header.plain n name value frame state.plain := by
  simp only [define, symbols_plain, ← plain_atLine, Symbols.define_relocate, isRoot_plain,
    ← ifndefFindings_plain, ← guardFindings_plain, ← detectionFindings_plain]
  simp only [Step.plain, State.plain, Findings.relocate_append]
  split <;> split <;> rfl

theorem nameFindings_plain (d : Directive) :
    (nameFindings frame d l).relocate .plain = nameFindings frame d l.plain := by
  unfold nameFindings
  split <;> simp [Issue.relocate]

theorem setting_plain (form : SettingForm) (kind : SettingKind) (name value : String) :
    (setting l form kind name value frame state).plain =
      setting l.plain form kind name value frame state.plain := by
  simp only [setting, symbols_plain, Symbols.bind_relocate]
  simp [Step.plain, State.plain, Issue.relocate]

theorem includeSuggestion_plain (path : String) :
    (includeSuggestion expected header l path frame state).plain =
      includeSuggestion expected header.plain l.plain path frame state.plain := by
  unfold includeSuggestion
  rw [isRoot_plain]
  split
  · simp only [Step.plain, report_plain, Findings.relocate_errorIf]
    rfl
  · rfl

theorem includeFile_plain (path : String) :
    (includeFile l path frame state).plain = includeFile l.plain path frame state.plain := by
  unfold includeFile
  split <;> simp [Step.plain, Issue.relocate]

theorem perform_plain (d : Directive) :
    (perform expected header n d frame state).plain =
      perform expected header.plain n d frame state.plain := by
  have hactive : ∀ {r r' : Step}, r.plain = r' →
      (if frame.branches.isActive then r else .next frame state).plain =
        if frame.branches.isActive then r' else .next frame state.plain := by
    intro r r' hr
    split
    · exact hr
    · rfl
  cases d with
  | elseBranch => exact ofBranches_plain ..
  | endIf => exact ofBranches_plain ..
  | ifTrue negated name => exact ifTrue_plain ..
  | ifDefined name => simp [perform, Step.plain]
  | ifUndefined name => simp [perform, ifUndefined, Step.plain]
  | unsupported word condition => simp [perform, unsupported, Step.plain, Issue.relocate]
  | boardDetection => rfl
  | includeSuggestion path => exact includeSuggestion_plain ..
  | setting form kind name value => exact hactive (setting_plain ..)
  | define name value => exact hactive (define_plain ..)
  | includeFile path => exact hactive (includeFile_plain ..)
  | unrecognized => exact hactive rfl

/-- No line depends on the texts of sources. -/
theorem step_plain (text : String) :
    (step expected header n text frame state).plain =
      step expected header.plain n text frame state.plain := by
  unfold step
  rw [perform_plain, report_plain, nameFindings_plain, plain_atLine]

/-! ## Runs -/

/-- The halt without the texts of sources. -/
def Halt.plain (h : Halt) : Halt := ⟨h.cause.relocate .plain, h.state.plain⟩

/-- Two runs that end alike: both halt, and for the same reason, or both go on. -/
inductive Alike {α : Type} (R : α → α → Prop) : Except Halt α → Except Halt α → Prop
  | ok {a a' : α} (h : R a a') : Alike R (.ok a) (.ok a')
  | error {halt halt' : Halt} (h : halt.plain = halt'.plain) : Alike R (.error halt) (.error halt')

theorem Alike.bind {α β : Type} {R : α → α → Prop} {S : β → β → Prop} {x x' : Except Halt α}
    {f f' : α → Except Halt β} (hx : Alike R x x') (hf : ∀ a a', R a a' → Alike S (f a) (f' a')) :
    Alike S (x.bind f) (x'.bind f') := by
  cases hx with
  | ok h => exact hf _ _ h
  | error h => exact .error h

/-- The same state, but for the texts of sources. -/
def SameState (s s' : State) : Prop := s.plain = s'.plain

/-- The same point, but for the texts of sources. -/
def SamePoint (p p' : Point) : Prop := p.frame = p'.frame ∧ SameState p.state p'.state

variable {c c' : Context} {chain : List Path} {header header' : Header} {s s' : State}

theorem SameState.report (hs : SameState s s') {found found' : Findings Issue}
    (hf : found.relocate .plain = found'.relocate .plain) :
    SameState (s.report found) (s'.report found') := by
  unfold SameState
  rw [report_plain, report_plain, hs, hf]

theorem SameState.halt (hs : SameState s s') {i i' : Issue} {l l' : Location}
    (hi : i.relocate .plain = i'.relocate .plain) (hl : l.plain = l'.plain) :
    (Halt.mk ⟨i, l⟩ s).plain = (Halt.mk ⟨i', l'⟩ s').plain := by
  unfold SameState at hs
  simp only [Halt.plain, Located.relocate, hs, hi, hl]

theorem closeFile_alike (hh : header.plain = header'.plain) {p p' : Point} (hp : SamePoint p p') :
    Alike SameState (closeFile header p) (closeFile header' p') := by
  obtain ⟨hf, hs⟩ := hp
  unfold closeFile
  rw [← hf]
  cases p.frame.branches.finish with
  | ok _ => exact .ok hs
  | error e =>
    have hl : (Location.whole header.source).plain = (Location.whole header'.source).plain :=
      congrArg (fun h : Header => Location.whole h.source) hh
    exact .error (hs.halt rfl hl)

/-- Runs of the included headers end alike: this is what an include needs to know of them. -/
def DescentAlike (c c' : Context) (chain : List Path) : Prop :=
  ∀ name text, c.disk.read (c.directory.child name) = .ok text →
    ¬ isOpen chain (c.directory.child name) = true →
    ∀ (header : Header) lines frame {s s' : State}, SameState s s' →
      Alike SameState (scanLines c (chain ++ [c.directory.child name]) header lines frame s)
        (scanLines c' (chain ++ [c.directory.child name]) header lines frame s')

theorem enterFile_alike (hc : AgreeOff chain c c') (hd : DescentAlike c c' chain)
    {l l' : Location} (hl : l.plain = l'.plain) (name : FileName) (hs : SameState s s') :
    Alike SameState (enterFile c chain l name s) (enterFile c' chain l' name s') := by
  by_cases ho : isOpen chain (c.directory.child name) = true
  · rw [enterFile_of_open ho, enterFile_of_open (hc.directory ▸ ho), hc.directory]
    exact .error (hs.halt rfl hl)
  · obtain ⟨ho', hr'⟩ := hc.target ho
    cases hr : c.disk.read (c.directory.child name) with
    | error reason =>
      rw [hr] at hr'
      rw [enterFile_of_unreadable ho hr, enterFile_of_unreadable ho' hr']
      refine .ok (hs.report ?_)
      rw [Findings.relocate_error, Findings.relocate_error, hl, hc.directory]
    | ok text =>
      rw [hr] at hr'
      rw [enterFile_of_text ho hr, enterFile_of_text ho' hr', hc.directory]
      exact hd name text hr ho _ _ _ hs

theorem readLine_alike (hc : AgreeOff chain c c') (hd : DescentAlike c c' chain)
    (hh : header.plain = header'.plain) {p p' : Point} (hp : SamePoint p p')
    (line : UInt32 × String) :
    Alike SamePoint (readLine c chain header p line) (readLine c' chain header' p' line) := by
  obtain ⟨n, text⟩ := line
  obtain ⟨hf, hs⟩ := hp
  have hl : (Location.atLine header.source n).plain = (Location.atLine header'.source n).plain := by
    rw [plain_atLine, plain_atLine, hh]
  have hstep : (step c.expected header n text p.frame p.state).plain =
      (step c'.expected header' n text p'.frame p'.state).plain := by
    rw [step_plain, step_plain, hh, hf, hs, hc.expected]
  unfold readLine
  cases h : step c.expected header n text p.frame p.state <;>
    cases h' : step c'.expected header' n text p'.frame p'.state <;>
    rw [h, h'] at hstep <;>
    simp only [Step.plain, reduceCtorEq, Step.next.injEq, Step.descend.injEq,
      Step.stop.injEq] at hstep
  · exact .ok hstep
  · obtain ⟨rfl, rfl, hs⟩ := hstep
    exact (enterFile_alike hc hd hl _ hs).bind fun _ _ ht => .ok ⟨rfl, ht⟩
  · exact .error (SameState.halt hstep.2 hstep.1 hl)

theorem readLines_alike (hc : AgreeOff chain c c') (hd : DescentAlike c c' chain)
    (hh : header.plain = header'.plain) (lines : List (UInt32 × String)) {p p' : Point}
    (hp : SamePoint p p') :
    Alike SamePoint (readLines c chain header lines p) (readLines c' chain header' lines p') := by
  induction lines generalizing p p' with
  | nil => exact .ok hp
  | cons line lines ih => exact (readLine_alike hc hd hh hp line).bind fun _ _ hq => ih hq

/-- A scan depends neither on the texts of sources nor on what the disk has for open headers. -/
theorem scanLines_alike (hc : AgreeOff chain c c') (hh : header.plain = header'.plain)
    (lines : List (UInt32 × String)) (frame : Frame) (hs : SameState s s') :
    Alike SameState (scanLines c chain header lines frame s)
      (scanLines c' chain header' lines frame s') := by
  induction chain using descent_induction (c := c) generalizing header header' lines frame s s' with
  | h chain ih =>
  have hd : DescentAlike c c' chain := fun name text hr ho header lines frame s s' hs =>
    ih name text hr ho (hc.append _) rfl lines frame hs
  have hp : SamePoint ⟨frame, s⟩ ⟨frame, s'⟩ := ⟨rfl, hs⟩
  rw [scanLines_eq, scanLines_eq]
  exact (readLines_alike hc hd hh lines hp).bind fun _ _ hq => closeFile_alike hh hq

theorem sameState_start {source source' : Source} (hp : source.path = source'.path) :
    SameState (start source).state (start source').state := by
  have hw : (Location.whole source).plain = (Location.whole source').plain := by
    simp only [Location.plain, Location.source_whole, hp]
    rfl
  simp only [SameState, State.plain, start, initialSymbols_relocate hp hw]

/-! ## What is seen of a scan -/

/-- What is seen of an issue: its message, the name of its file, and the number of its line. -/
structure Shown where
  message : String
  file : String
  line : Option UInt32
deriving DecidableEq

/-- What is seen of an issue in its place. -/
def shown (x : Located Issue) : Shown := ⟨x.cause.message, x.location.source.name, x.location.line⟩

/-- What is seen of a scan. -/
structure Outcome where
  /-- The error that ended it early. -/
  fatal : Option Shown
  content : Symbols.Content
  markers : Markers
  errors : List Shown
  warnings : List Shown
deriving DecidableEq

/-- What is seen of a scan that ended in this state. -/
def State.outcome (s : State) (fatal : Option Shown) : Outcome where
  fatal := fatal
  content := s.symbols.content
  markers := s.markers
  errors := s.findings.errors.map shown
  warnings := s.findings.warnings.map shown

/-- What is seen of a scan. -/
def outcome : Except Halt (Board × Findings Issue) → Outcome
  | .ok (board, found) => (State.mk board.symbols board.markers found).outcome none
  | .error halt => halt.state.outcome (some (shown halt.cause))

/-- What is seen of a scan, before its board is put together. -/
def endOutcome : Except Halt State → Outcome
  | .ok s => s.outcome none
  | .error halt => halt.state.outcome (some (shown halt.cause))

theorem outcome_scan {disk : Disk} {path : Path} {text : String} (h : disk.read path = .ok text) :
    outcome (scan disk path) = endOutcome (scanSource (.ofPath disk path) (.ofText path text)) := by
  unfold scan
  rw [h]
  dsimp only
  cases scanSource (.ofPath disk path) (.ofText path text) <;> rfl

@[simp] theorem shown_plain (x : Located Issue) : shown (x.relocate .plain) = shown x := by
  simp only [shown, Located.relocate, Issue.message_plain]
  rfl

@[simp] theorem outcome_plain (s : State) (fatal : Option Shown) :
    s.plain.outcome fatal = s.outcome fatal := by
  simp [State.outcome, Findings.relocate, Function.comp_def]

theorem SameState.outcome (hs : SameState s s') (fatal : Option Shown) :
    s.outcome fatal = s'.outcome fatal := by
  rw [← outcome_plain s, hs, outcome_plain]

theorem Alike.endOutcome {r r' : Except Halt State} (h : Alike SameState r r') :
    endOutcome r = endOutcome r' := by
  cases h with
  | ok hs => exact hs.outcome none
  | @error halt halt' h =>
    have hc : shown halt.cause = shown halt'.cause := by
      rw [← shown_plain, ← shown_plain halt'.cause]
      exact congrArg (fun h => shown h.cause) h
    have hs : SameState halt.state halt'.state := congrArg Halt.state h
    show halt.state.outcome _ = halt'.state.outcome _
    rw [hc, hs.outcome]

end Scan

end BoardLint
