import BoardLint.Proofs.Scan.Marks

/-!
# Lines that have no part in the guard

Some errors are about the include guard of the root header (`IsGuardError`). They come from active
lines of this header that define a name of the form of a guard, and from nowhere else. All other
lines, and all lines of included headers, are quiet: they only add to the defines that are there
(`step_quiet`, `includes_quiet`). What a guard has to be, so that it is not reported, is read off
its define (`clean_findings_define`).
-/

namespace BoardLint

open ExpectedNames

/-! ## Defines that stay and defines that come -/

namespace Symbols

/-- The defines have become more, by lines of headers. -/
def Grown (s s' : Symbols) : Prop :=
  ∃ more, s'.defines.entries = s.defines.entries ++ more ∧ ∀ d ∈ more, d.isSynthetic = false

theorem Grown.refl (s : Symbols) : Grown s s := ⟨[], (List.append_nil _).symm, nofun⟩

theorem Grown.trans {s s' s'' : Symbols} (h : Grown s s') (h' : Grown s' s'') : Grown s s'' := by
  obtain ⟨more, hmore, hdeclared⟩ := h
  obtain ⟨more', hmore', hdeclared'⟩ := h'
  refine ⟨more ++ more', by rw [hmore', hmore, List.append_assoc], fun d hd => ?_⟩
  exact (List.mem_append.1 hd).elim (hdeclared d) (hdeclared' d)

theorem entries_define_of_new {s : Symbols} {name : String} (h : name ∉ s.defines.names)
    (raw : Option String) (l : Location) :
    (s.define name raw l).1.defines.entries = s.defines.entries ++ [s.entry name raw l] := by
  rw [define_fst]
  exact Table.entries_insert h

theorem grown_define (s : Symbols) (name : String) (raw : Option String) (source : Source)
    (n : UInt32) : Grown s (s.define name raw (.atLine source n)).1 := by
  by_cases h : name ∈ s.defines.names
  · rw [define_fst, Table.insert_of_mem h]
    exact Grown.refl s
  · refine ⟨_, entries_define_of_new h raw _, fun d hd => ?_⟩
    rw [List.mem_singleton.1 hd]
    rfl

theorem declaredCount_eq_zero_iff {s : Symbols} :
    s.declaredCount = 0 ↔ ∀ d ∈ s.defines.entries, d.isSynthetic = true := by
  simp [declaredCount, List.countP_eq_zero]

end Symbols

namespace Scan

/-! ## Errors about the guard -/

/-- The place of a define in this header that has the name of a guard. -/
def AtGuard (source : Source) (l : Location) : Prop :=
  ∃ n text name value, l = .atLine source n ∧ (n, text) ∈ source.numberedLines ∧
    Directive.classify text = .define name value ∧ GuardShaped name

/-- An error that says that something is wrong with the guard of this header. -/
def IsGuardError (source : Source) (e : Located Issue) : Prop :=
  match e.cause with
  | .guardWithoutIfndef _ | .guardValue _ | .guardNotFirst _ | .guardName .. => True
  | .ifndefMismatch .. => AtGuard source e.location
  | _ => False

/-- No error says that something is wrong with the guard. -/
def Clean (source : Source) (found : Findings Issue) : Prop :=
  ∀ e ∈ found.errors, ¬ IsGuardError source e

variable {source : Source} {found more : Findings Issue} {i : Issue} {l : Location}

@[simp] theorem clean_empty : Clean source ∅ := List.forall_mem_nil _

@[simp] theorem clean_append :
    Clean source (found ++ more) ↔ Clean source found ∧ Clean source more := List.forall_mem_append

@[simp] theorem clean_error : Clean source (.error i l) ↔ ¬ IsGuardError source ⟨i, l⟩ :=
  List.forall_mem_singleton

@[simp] theorem clean_errorIf {p : Prop} [Decidable p] :
    Clean source (.errorIf p i l) ↔ (p → ¬ IsGuardError source ⟨i, l⟩) := by
  unfold Findings.errorIf
  split <;> simp_all

theorem clean_ite {b : Bool} :
    Clean source (if b = true then found else ∅) ↔ (b = true → Clean source found) := by
  cases b <;> simp

theorem not_isGuardError {e : Located Issue} (h : e.cause.aboutMark = false) :
    ¬ IsGuardError source e := by
  unfold IsGuardError
  split <;> simp_all [Issue.aboutMark]

theorem clean_of_all (h : found.All (·.cause.aboutMark = false)) : Clean source found :=
  fun e he => not_isGuardError (h.1 e he)

theorem clean_detectionFindings (expected : ExpectedNames) (name : String) (value : Option String)
    (l : Location) : Clean source (detectionFindings expected name value l) :=
  (all_detectionFindings (fun _ => id) (fun _ _ => id) expected name value).1

/-- What a define reports as an entry of the symbols is not about the guard. -/
theorem clean_define (s : Symbols) (name : String) (raw : Option String) (l : Location) :
    Clean source (s.define name raw l).2 :=
  clean_of_all (report_not_aboutMark s (.define name raw l))

theorem clean_ifndefFindings {preceding : Option String} {name : String} :
    Clean source (ifndefFindings preceding name l) ↔
      ∀ ifndef, preceding = some ifndef → ifndef ≠ name → ¬ AtGuard source l := by
  unfold ifndefFindings
  split <;> simp [IsGuardError]

theorem clean_guardFindings {expected : ExpectedNames} {s : Symbols} {preceding : Option String}
    {name : String} {value : Option String} :
    Clean source (guardFindings expected s preceding name value l) ↔
      preceding ≠ none ∧ value = none ∧ s.declaredCount = 0 ∧ name = expected.guard := by
  simp [guardFindings, IsGuardError, and_assoc]

/-! ## Quiet lines -/

/-- Nothing has happened that concerns the guard, but that there may be more defines. -/
structure Quiet (source : Source) (s s' : State) : Prop where
  guard : s'.markers.guard = s.markers.guard
  clean : Clean source s'.findings ↔ Clean source s.findings
  grown : s.symbols.Grown s'.symbols

theorem Quiet.refl (s : State) : Quiet source s s := ⟨rfl, Iff.rfl, .refl _⟩

theorem Quiet.trans {s s' s'' : State} (h : Quiet source s s') (h' : Quiet source s' s'') :
    Quiet source s s'' :=
  ⟨h'.guard.trans h.guard, h'.clean.trans h.clean, h.grown.trans h'.grown⟩

variable {c : Context} {chain : List Path} {header : Header} {n : UInt32} {name : String}
  {value : Option String}

theorem guard_define (expected : ExpectedNames) (header : Header) (n : UInt32) (name : String)
    (value : Option String) (frame : Frame) (s : State) :
    (define expected header n name value frame s).state.markers.guard =
      (s.markers.guard || (header.isRoot && isGuardShaped name)) := by
  simp only [define, Step.state]

theorem symbols_define (expected : ExpectedNames) (header : Header) (n : UInt32) (name : String)
    (value : Option String) (frame : Frame) (s : State) :
    (define expected header n name value frame s).state.symbols =
      (s.symbols.define name value (.atLine header.source n)).1 := by
  simp only [define, Step.state]

/-- What a define has to be, not to be reported. -/
theorem clean_findings_define (expected : ExpectedNames) (header : Header) (n : UInt32)
    (name : String) (value : Option String) (frame : Frame) (s : State) :
    Clean source (define expected header n name value frame s).state.findings ↔
      Clean source s.findings ∧
      Clean source (ifndefFindings (precedingIfndef? frame n) name (.atLine header.source n)) ∧
      ((header.isRoot && isGuardShaped name) = true →
        Clean source (guardFindings expected s.symbols (precedingIfndef? frame n) name value
          (.atLine header.source n))) := by
  simp only [define, Step.state, clean_append, clean_ite, clean_detectionFindings, clean_define,
    implies_true, and_true]

theorem define_quiet (expected : ExpectedNames) (frame : Frame) (s : State)
    (hl : ¬ AtGuard source (.atLine header.source n))
    (hname : header.isRoot = true → ¬ GuardShaped name) :
    Quiet source s (define expected header n name value frame s).state := by
  have hguard : (header.isRoot && isGuardShaped name) = false := by
    rw [← Bool.not_eq_true, Bool.and_eq_true, isGuardShaped_iff]
    exact fun h => hname h.1 h.2
  refine ⟨?_, ?_, ?_⟩
  · rw [guard_define, hguard, Bool.or_false]
  · rw [clean_findings_define, hguard]
    refine and_iff_left ⟨?_, nofun⟩
    exact clean_ifndefFindings.2 fun _ _ _ => hl
  · rw [symbols_define]
    exact Symbols.grown_define ..

theorem Beside.quiet {s s' : State} (h : Beside s s') : Quiet source s s' := by
  obtain ⟨f, hf, hall⟩ := h.findings
  refine ⟨h.guard, ?_, [], ?_, nofun⟩
  · rw [hf, clean_append, and_iff_left (clean_of_all hall)]
  · rw [h.defines, List.append_nil]

/-- All is quiet, but for active defines with the name of a guard. -/
theorem step_quiet {text : String} (expected : ExpectedNames) (frame : Frame) (s : State)
    (h : frame.branches.isActive = true → ∀ name value,
      Directive.classify text = .define name value →
      ¬ AtGuard source (.atLine header.source n) ∧ (header.isRoot = true → ¬ GuardShaped name)) :
    Quiet source s (step expected header n text frame s).state := by
  rcases step_cases expected header n text frame s with hbeside | ⟨ha, name, value, hd, hstep⟩
  · exact hbeside.quiet
  · obtain ⟨hl, hname⟩ := h ha name value hd
    rw [hstep]
    exact (nameFindings_beside frame _ _ s).quiet.trans (define_quiet expected frame _ hl hname)

/-- Included headers are quiet. -/
theorem includes_quiet (hroot : source.path ∈ chain) (l : Location) :
    IncludesRespect c chain l (Quiet source) := by
  have hR : Respected c (fun header => header.isRoot = false ∧ header.source.path ≠ source.path)
      (Quiet source) := by
    refine ⟨.refl, .trans, ?_, ?_⟩
    · rintro header n text ⟨hroot, hpath⟩ - frame s
      refine step_quiet c.expected frame s fun _ name value _ => ⟨?_, ?_⟩
      · rintro ⟨n', text', name', value', hl, -⟩
        exact hpath (congrArg (fun l => l.source.path) hl)
      · rw [hroot]
        exact nofun
    · rintro header n text - - path reason s
      exact (unreadable_beside path reason _ s).quiet
  refine includes_respect hR ?_ chain hroot l fun path reason s => ?_
  · intro name text _ hsame
    refine ⟨rfl, fun hpath => ?_⟩
    have htarget : c.directory.child name = source.path := hpath
    rw [htarget, Path.same_refl] at hsame
    exact absurd hsame nofun
  · exact (unreadable_beside path reason l s).quiet

end Scan

end BoardLint
