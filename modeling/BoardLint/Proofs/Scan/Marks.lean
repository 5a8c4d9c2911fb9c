import BoardLint.Proofs.Scan.Effects

/-!
# Marks

The two defines by which a root header gives its name, the include guard and the board-detection
define, are checked in the light of lines above them. What is remembered of a line depends on its
directive and on whether it is active (`perform_remembers`). All lines but active defines are beside
the point otherwise: they set none of the two markers, they define nothing, and they report nothing
of what is wrong with such defines (`step_cases`).
-/

namespace BoardLint

/-- Is the issue about a guard, about a define behind an `#ifndef`, or about a board-detection
define? -/
def Issue.aboutMark : Issue → Bool
  | guardWithoutIfndef _ | guardValue _ | guardNotFirst _ | guardName .. | ifndefMismatch ..
  | detectionValue _ | detectionName .. => true
  | _ => false

namespace Scan

variable {c : Context} {chain : List Path} {header : Header} {n : UInt32} {d : Directive}
  {l : Location} {name : String} {value : Option String} {text : String} {p q : Point}

/-! ## What is remembered -/

/-- The `#ifndef` that is remembered behind a line. -/
def lastIfndefBehind (n : UInt32) (frame : Frame) : Directive → Option (String × UInt32)
  | .ifUndefined name => if frame.branches.isActive then some (name, n) else frame.lastIfndef
  | _ => frame.lastIfndef

/-- Is a board-detection define awaited behind a line? -/
def awaitsBehind (header : Header) (frame : Frame) : Directive → Bool
  | .boardDetection => frame.awaitsDetection || header.isRoot
  | .define .. => frame.awaitsDetection && !(frame.branches.isActive && header.isRoot)
  | _ => frame.awaitsDetection

/-- What is remembered behind a line, the branches aside. -/
structure Remembers (header : Header) (n : UInt32) (d : Directive) (frame frame' : Frame) :
    Prop where
  lastIfndef : frame'.lastIfndef = lastIfndefBehind n frame d
  awaitsDetection : frame'.awaitsDetection = awaitsBehind header frame d

theorem perform_remembers (expected : ExpectedNames) (frame : Frame) (s : State) :
    ∀ f ∈ (perform expected header n d frame s).frame?, Remembers header n d frame f := by
  have hsome : ∀ {g : Frame}, Remembers header n d frame g →
      ∀ f ∈ some g, Remembers header n d frame f := fun hg f hf => Option.some.inj hf ▸ hg
  have hactive : ∀ {r : Step}, Remembers header n d frame frame →
      (∀ f ∈ r.frame?, Remembers header n d frame f) →
      ∀ f ∈ (if frame.branches.isActive then r else .next frame s).frame?,
        Remembers header n d frame f := fun hframe hr =>
    Step.of_active (P := fun r => ∀ f ∈ r.frame?, Remembers header n d frame f) (hsome hframe)
      fun _ => hr
  cases d with
  | elseBranch =>
    simp only [perform]
    rcases frame.branches.flip with ⟨_ | _, branches⟩
    · exact nofun
    · exact hsome ⟨rfl, rfl⟩
  | endIf =>
    simp only [perform]
    rcases frame.branches.leave with ⟨_ | _, branches⟩
    · exact nofun
    · exact hsome ⟨rfl, rfl⟩
  | ifTrue negated name =>
    simp only [perform, ifTrue]
    split
    · exact hsome ⟨rfl, rfl⟩
    · exact hsome ⟨rfl, rfl⟩
  | ifDefined name => exact hsome ⟨rfl, rfl⟩
  | ifUndefined name => exact hsome ⟨rfl, rfl⟩
  | unsupported word condition => exact hsome ⟨rfl, rfl⟩
  | boardDetection => exact hsome ⟨rfl, rfl⟩
  | includeSuggestion path =>
    simp only [perform, includeSuggestion]
    split
    · exact hsome ⟨rfl, rfl⟩
    · exact hsome ⟨rfl, rfl⟩
  | setting form kind name value => exact hactive ⟨rfl, rfl⟩ (hsome ⟨rfl, rfl⟩)
  | define name value =>
    -- the only directive that forgets something, and only in an active branch
    cases ha : frame.branches.isActive with
    | true =>
      simp only [perform, ha, if_true]
      exact hsome ⟨rfl, by simp [awaitsBehind, ha]⟩
    | false =>
      simp only [perform, ha]
      exact hsome ⟨rfl, by simp [awaitsBehind, ha]⟩
  | includeFile path =>
    refine hactive ⟨rfl, rfl⟩ ?_
    unfold includeFile
    split
    · exact hsome ⟨rfl, rfl⟩
    · exact hsome ⟨rfl, rfl⟩
  | unrecognized => exact hactive ⟨rfl, rfl⟩ (hsome ⟨rfl, rfl⟩)

theorem remembers_of_readLine (hq : readLine c chain header p (n, text) = .ok q) :
    Remembers header n (Directive.classify text) p.frame q.frame := by
  have h := frame?_of_readLine hq
  unfold step at h
  exact perform_remembers _ _ _ q.frame h

/-! ## Lines beside the point -/

/-- Nothing has happened that concerns guards and board-detection defines. -/
structure Beside (s s' : State) : Prop where
  guard : s'.markers.guard = s.markers.guard
  detection : s'.markers.detection = s.markers.detection
  defines : s'.symbols.defines = s.symbols.defines
  findings : ∃ f, s'.findings = s.findings ++ f ∧ f.All (·.cause.aboutMark = false)

theorem Beside.refl (s : State) : Beside s s :=
  ⟨rfl, rfl, rfl, ∅, (Findings.append_empty _).symm, Findings.all_empty⟩

theorem Beside.trans {s s' s'' : State} (h : Beside s s') (h' : Beside s' s'') : Beside s s'' := by
  obtain ⟨hguard, hdetection, hdefines, f, hf, hall⟩ := h
  obtain ⟨hguard', hdetection', hdefines', g, hg, hall'⟩ := h'
  refine ⟨hguard'.trans hguard, hdetection'.trans hdetection, hdefines'.trans hdefines, f ++ g, ?_,
    Findings.all_append.2 ⟨hall, hall'⟩⟩
  rw [hg, hf, Findings.append_assoc]

theorem beside_report (s : State) {f : Findings Issue} (h : f.All (·.cause.aboutMark = false)) :
    Beside s (s.report f) := ⟨rfl, rfl, rfl, f, rfl, h⟩

theorem nameFindings_beside (frame : Frame) (d : Directive) (l : Location) (s : State) :
    Beside s (s.report (nameFindings frame d l)) :=
  beside_report s (all_nameFindings (fun _ => rfl) frame d)

/-- A call on the symbols reports nothing of the kind. -/
theorem report_not_aboutMark (s : Symbols) (call : Symbols.Call) :
    (s.report call).All (·.cause.aboutMark = false) :=
  all_report s call (fun _ _ => rfl) fun _ _ _ _ _ _ => ⟨rfl, rfl⟩

theorem unreadable_beside (path : Path) (reason : ReadError) (l : Location) (s : State) :
    Beside s (s.report (.error (.unreadable path reason) l)) :=
  beside_report s (Findings.all_error.2 rfl)

theorem setting_beside (l : Location) (form : SettingForm) (kind : SettingKind)
    (name raw : String) (frame : Frame) (s : State) :
    Beside s (setting l form kind name raw frame s).state := by
  unfold setting Step.state
  dsimp only
  refine ⟨rfl, rfl, ?_, _, Findings.append_assoc .., Findings.all_append.2 ⟨?_, ?_⟩⟩
  · rw [Symbols.bind_fst, Symbols.defines_insertSetting]
  · exact Findings.all_errorIf rfl
  · exact report_not_aboutMark s.symbols (.bind kind name raw l)

theorem ifTrue_beside (l : Location) (negated : Bool) (name : String) (frame : Frame) (s : State) :
    Beside s (ifTrue l negated name frame s).state := by
  unfold ifTrue
  split
  · exact beside_report s (all_evaluate (fun _ => rfl) s.symbols name)
  · exact .refl s

theorem ofBranches_beside (frame : Frame) (s : State) (r : Except NestingError Unit × Branches) :
    Beside s (Step.ofBranches frame s r).state := by
  rcases r with ⟨_ | _, branches⟩ <;> exact .refl s

theorem includeSuggestion_beside (expected : ExpectedNames) (header : Header) (l : Location)
    (path : String) (frame : Frame) (s : State) :
    Beside s (includeSuggestion expected header l path frame s).state := by
  unfold includeSuggestion
  split
  · exact ⟨rfl, rfl, rfl, _, rfl, Findings.all_errorIf rfl⟩
  · exact .refl s

theorem includeFile_beside (l : Location) (path : String) (frame : Frame) (s : State) :
    Beside s (includeFile l path frame s).state := by
  unfold includeFile
  split
  · exact .refl s
  · exact beside_report s (Findings.all_error.2 rfl)

theorem perform_beside (expected : ExpectedNames) (frame : Frame) (s : State)
    (h : frame.branches.isActive = true → ∀ name value, d ≠ .define name value) :
    Beside s (perform expected header n d frame s).state := by
  have hactive : ∀ {r : Step}, (frame.branches.isActive = true → Beside s r.state) →
      Beside s (if frame.branches.isActive then r else .next frame s).state :=
    Step.of_active (P := fun r => Beside s r.state) (.refl s)
  cases d with
  | elseBranch => exact ofBranches_beside ..
  | endIf => exact ofBranches_beside ..
  | ifTrue negated name => exact ifTrue_beside ..
  | ifDefined name => exact .refl s
  | ifUndefined name => exact .refl s
  | unsupported word condition => exact beside_report s (Findings.all_errorIf rfl)
  | boardDetection => exact .refl s
  | includeSuggestion path => exact includeSuggestion_beside ..
  | setting form kind name value => exact hactive fun _ => setting_beside ..
  | define name value => exact hactive fun ha => absurd rfl (h ha name value)
  | includeFile path => exact hactive fun _ => includeFile_beside ..
  | unrecognized => exact hactive fun _ => .refl s

/-! ## Active defines -/

theorem step_define {expected : ExpectedNames} (hd : Directive.classify text = .define name value)
    {frame : Frame} (ha : frame.branches.isActive = true) (s : State) :
    step expected header n text frame s = define expected header n name value frame
      (s.report (nameFindings frame (.define name value) (.atLine header.source n))) := by
  unfold step
  rw [hd]
  exact if_pos ha

/-- What a line does is beside the point, or it is an active define. -/
theorem step_cases (expected : ExpectedNames) (header : Header) (n : UInt32) (text : String)
    (frame : Frame) (s : State) :
    Beside s (step expected header n text frame s).state ∨
      frame.branches.isActive = true ∧ ∃ name value,
        Directive.classify text = .define name value ∧
        step expected header n text frame s = define expected header n name value frame
          (s.report (nameFindings frame (.define name value) (.atLine header.source n))) := by
  by_cases hdefine : frame.branches.isActive = true ∧
      ∃ name value, Directive.classify text = .define name value
  · obtain ⟨ha, name, value, hd⟩ := hdefine
    exact .inr ⟨ha, name, value, hd, step_define hd ha s⟩
  · refine .inl ((nameFindings_beside frame _ _ s).trans (perform_beside expected frame _ ?_))
    exact fun ha name value hd => hdefine ⟨ha, name, value, hd⟩

theorem state_of_readLine_define (hd : Directive.classify text = .define name value)
    (ha : p.frame.branches.isActive = true)
    (hq : readLine c chain header p (n, text) = .ok q) :
    q.state = (define c.expected header n name value p.frame (p.state.report
      (nameFindings p.frame (.define name value) (.atLine header.source n)))).state := by
  unfold readLine at hq
  rw [step_define hd ha] at hq
  exact (congrArg Point.state (Except.ok.inj hq)).symm

end Scan

end BoardLint
