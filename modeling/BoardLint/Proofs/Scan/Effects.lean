import BoardLint.Proofs.Scan.Runs
import BoardLint.Proofs.Symbols.FirstCalls

/-!
# What a line may do

Whatever its directive, a line does little to what all headers of a scan share. It makes at most the
one call on the symbols that its directive writes, at its own place (`Directive.call?`). It sets
markers, and takes none back. It adds findings, which are about its own place, and beside it mention
no places but those of entries that are there.

`step_effects` says this of every line. What runs keep is derived from it, and not from the
definition of `step`.
-/

namespace BoardLint

/-! ## Places -/

/-- The places that an issue refers to. -/
def Issue.places : Issue → List Location
  | conflict _ _ _ _ previous | redefinition _ _ _ previous => [previous]
  | _ => []

/-- The place of a finding, and those that its cause refers to. -/
def Located.places (e : Located Issue) : List Location := e.location :: e.cause.places

/-- Some entry was made at this place. -/
def Symbols.HasEntryAt (s : Symbols) (l : Location) : Prop :=
  ∃ space, ∃ e ∈ (s.table space).entries, Entry.location e = l

/-- The call on the symbols that a directive writes at a place. -/
def Directive.call? (l : Location) : Directive → Option Symbols.Call
  | define name value => some (.define name value l)
  | setting _ kind name value => some (.bind kind name value l)
  | _ => none

theorem Directive.location_of_call? {l : Location} {d : Directive} {c : Symbols.Call}
    (h : d.call? l = some c) : c.location = l := by
  unfold call? at h
  split at h
  · exact Option.some.inj h ▸ rfl
  · exact Option.some.inj h ▸ rfl
  · exact absurd h nofun

/-! ## What holds of all findings -/

namespace Findings

variable {ε : Type} {P Q : Located ε → Prop} {f g : Findings ε} {i : ε} {l : Location}

/-- Something holds of all errors and of all warnings. -/
def All (P : Located ε → Prop) (f : Findings ε) : Prop :=
  (∀ e ∈ f.errors, P e) ∧ ∀ e ∈ f.warnings, P e

theorem All.imp (h : ∀ e, P e → Q e) (hf : f.All P) : f.All Q :=
  ⟨fun e he => h e (hf.1 e he), fun e he => h e (hf.2 e he)⟩

@[simp] theorem all_empty : (∅ : Findings ε).All P := ⟨nofun, nofun⟩

@[simp] theorem all_append : (f ++ g).All P ↔ f.All P ∧ g.All P := by
  simp only [All, errors_append, warnings_append, List.forall_mem_append]
  exact and_and_and_comm

@[simp] theorem all_error : (error i l).All P ↔ P ⟨i, l⟩ := by
  simp [All]

@[simp] theorem all_warning : (warning i l).All P ↔ P ⟨i, l⟩ := by
  simp [All]

theorem all_errorIf {p : Prop} [Decidable p] (h : P ⟨i, l⟩) : (errorIf p i l).All P := by
  unfold errorIf
  split
  · exact all_error.2 h
  · exact all_empty

theorem all_ite {p : Prop} [Decidable p] (h : f.All P) : (if p then f else ∅).All P := by
  split
  · exact h
  · exact all_empty

end Findings

/-- A marker that is set stays set. -/
structure Markers.Kept (m m' : Markers) : Prop where
  guard : m.guard = true → m'.guard = true
  detection : m.detection = true → m'.detection = true
  suggestion : m.suggestion = true → m'.suggestion = true

namespace Markers.Kept

theorem refl (m : Markers) : m.Kept m := ⟨id, id, id⟩

theorem trans {m m' m'' : Markers} (h : m.Kept m') (h' : m'.Kept m'') : m.Kept m'' :=
  ⟨h'.guard ∘ h.guard, h'.detection ∘ h.detection, h'.suggestion ∘ h.suggestion⟩

end Markers.Kept

namespace Scan

open Symbols

/-! ## What the parts of a line report -/

section Reports

variable {P : Located Issue → Prop} {l : Location}

theorem all_nameFindings (h : ∀ name, P ⟨.lowercase name, l⟩) (frame : Frame) (d : Directive) :
    (nameFindings frame d l).All P := by
  unfold nameFindings
  split
  · exact Findings.all_errorIf (h _)
  · exact Findings.all_empty

theorem all_evaluate (h : ∀ name, P ⟨.undefinedCondition name, l⟩) (s : Symbols) (name : String) :
    (evaluate s name l).2.All P := by
  unfold evaluate
  split
  · exact Findings.all_empty
  · split
    · exact Findings.all_empty
    · exact Findings.all_error.2 (h name)

theorem all_ifndefFindings (h : ∀ ifndef name, P ⟨.ifndefMismatch ifndef name, l⟩)
    (preceding : Option String) (name : String) : (ifndefFindings preceding name l).All P := by
  unfold ifndefFindings
  split
  · exact Findings.all_errorIf (h _ _)
  · exact Findings.all_empty

theorem all_guardFindings (halone : ∀ name, P ⟨.guardWithoutIfndef name, l⟩)
    (hvalue : ∀ name, P ⟨.guardValue name, l⟩) (hlate : ∀ name, P ⟨.guardNotFirst name, l⟩)
    (hname : ∀ found expected, P ⟨.guardName found expected, l⟩) (expected : ExpectedNames)
    (s : Symbols) (preceding : Option String) (name : String) (value : Option String) :
    (guardFindings expected s preceding name value l).All P := by
  simp only [guardFindings, Findings.all_append]
  exact ⟨⟨⟨Findings.all_errorIf (halone _), Findings.all_errorIf (hvalue _)⟩,
    Findings.all_errorIf (hlate _)⟩, Findings.all_errorIf (hname _ _)⟩

theorem all_detectionFindings (hvalue : ∀ name, P ⟨.detectionValue name, l⟩)
    (hname : ∀ found expected, P ⟨.detectionName found expected, l⟩) (expected : ExpectedNames)
    (name : String) (value : Option String) : (detectionFindings expected name value l).All P :=
  Findings.all_append.2 ⟨Findings.all_errorIf (hvalue _), Findings.all_errorIf (hname _ _)⟩

theorem all_circleFindings (h : ∀ name chain, P ⟨.circular name chain, l⟩) (name : String)
    (result : Except (List String) (Option Value)) : (circleFindings name l result).All P := by
  cases result with
  | ok value => exact Findings.all_empty
  | error chain => exact Findings.all_error.2 (h name chain)

/-- A second entry is reported as one of two issues, which refer to the place of the first. -/
def Duplicates (P : Located Issue → Prop) (l previous : Location) : Prop :=
  ∀ space name first second, P ⟨.redefinition space name first previous, l⟩ ∧
    P ⟨.conflict space name first second previous, l⟩

theorem all_duplicate {previous : Location} (h : Duplicates P l previous) (space : SymbolSpace)
    (name : String) (first second : Option Value) :
    (duplicate space name first second previous l).All P := by
  unfold duplicate
  split
  · exact Findings.all_warning.2 (h space name first second).1
  · exact Findings.all_error.2 (h space name first second).2

/-- A call reports circles and second entries, all at its own place. -/
theorem all_report (s : Symbols) (c : Call)
    (hcircle : ∀ name chain, P ⟨.circular name chain, c.location⟩)
    (hduplicate : ∀ previous, s.HasEntryAt previous → Duplicates P c.location previous) :
    (s.report c).All P := by
  cases c with
  | define name raw l =>
    cases h : s.lookup name with
    | none =>
      rw [Symbols.report, define_of_new h]
      exact all_circleFindings hcircle ..
    | some first =>
      have hfirst : s.HasEntryAt first.location := ⟨.define, first, Table.mem_of_get? h, rfl⟩
      rw [Symbols.report, define_of_taken h]
      exact Findings.all_append.2
        ⟨all_circleFindings hcircle .., all_duplicate (hduplicate _ hfirst) ..⟩
  | synthetic name value l => exact Findings.all_empty
  | bind kind name raw l =>
    cases h : s.setting kind name with
    | none =>
      rw [Symbols.report, bind_of_new h]
      exact Findings.all_empty
    | some first =>
      rw [Symbols.report, bind_of_taken h]
      exact all_duplicate (hduplicate _ ⟨.setting kind, first, Table.mem_of_get? h, rfl⟩) ..

end Reports

/-! ## Findings at a place -/

/-- The finding is about this place, and refers to no others but those of entries. -/
def PlacedAt (l : Location) (s : Symbols) (e : Located Issue) : Prop :=
  ∀ l' ∈ e.places, l' = l ∨ s.HasEntryAt l'

section PlacedAt

variable {l : Location} {s : Symbols} {i : Issue}

theorem placedAt_of_places (h : i.places = []) : PlacedAt l s ⟨i, l⟩ := by
  intro l' hl'
  rw [Located.places, h] at hl'
  exact .inl (List.mem_singleton.1 hl')

theorem placedAt_of_previous {previous : Location} (hp : s.HasEntryAt previous)
    (h : i.places = [previous]) : PlacedAt l s ⟨i, l⟩ := by
  intro l' hl'
  rw [Located.places, h, List.mem_pair] at hl'
  rcases hl' with rfl | rfl
  · exact .inl rfl
  · exact .inr hp

/-- A call reports at its own place. -/
theorem placedAt_report (s : Symbols) (c : Call) : (s.report c).All (PlacedAt c.location s) :=
  all_report s c (fun _ _ => placedAt_of_places rfl) fun _ hp _ _ _ _ =>
    ⟨placedAt_of_previous hp rfl, placedAt_of_previous hp rfl⟩

end PlacedAt

/-! ## Effects -/

/-- What a line with this directive at this place may do to the state. -/
structure Effects (d : Directive) (l : Location) (s s' : State) : Prop where
  symbols : s'.symbols = s.symbols ∨ ∃ c, d.call? l = some c ∧ s'.symbols = s.symbols.apply c
  markers : s.markers.Kept s'.markers
  findings : ∃ f, s'.findings = s.findings ++ f ∧ f.All (PlacedAt l s.symbols)

section Effects

variable {d : Directive} {l : Location} {s s' : State} {header : Header} {n : UInt32}

theorem Effects.refl (d : Directive) (l : Location) (s : State) : Effects d l s s :=
  ⟨.inl rfl, .refl _, ∅, (Findings.append_empty _).symm, Findings.all_empty⟩

theorem effects_report {f : Findings Issue} (h : f.All (PlacedAt l s.symbols)) :
    Effects d l s (s.report f) := ⟨.inl rfl, .refl _, f, rfl, h⟩

/-- Findings may be added in front. -/
theorem Effects.of_report {f : Findings Issue} (hf : f.All (PlacedAt l s.symbols))
    (h : Effects d l (s.report f) s') : Effects d l s s' := by
  obtain ⟨hsymbols, hmarkers, g, hg, hplaced⟩ := h
  refine ⟨hsymbols, hmarkers, f ++ g, ?_, Findings.all_append.2 ⟨hf, hplaced⟩⟩
  rw [hg, State.report, Findings.append_assoc]

theorem define_effects (expected : ExpectedNames) (name : String) (value : Option String)
    (frame : Frame) (s : State) :
    Effects (.define name value) (.atLine header.source n) s
      (define expected header n name value frame s).state := by
  unfold define Step.state
  dsimp only
  refine ⟨.inr ⟨_, rfl, rfl⟩, ⟨fun h => ?_, fun h => ?_, id⟩, _, Findings.append_assoc .., ?_⟩
  · exact Bool.or_eq_true_iff.2 (.inl h)
  · exact Bool.or_eq_true_iff.2 (.inl h)
  · simp only [Findings.all_append]
    refine ⟨⟨⟨all_ifndefFindings (fun _ _ => placedAt_of_places rfl) _ _, ?_⟩, ?_⟩, ?_⟩
    · exact Findings.all_ite <| all_guardFindings (fun _ => placedAt_of_places rfl)
        (fun _ => placedAt_of_places rfl) (fun _ => placedAt_of_places rfl)
        (fun _ _ => placedAt_of_places rfl) ..
    · exact Findings.all_ite <| all_detectionFindings (fun _ => placedAt_of_places rfl)
        (fun _ _ => placedAt_of_places rfl) ..
    · exact placedAt_report s.symbols (.define name value _)

theorem setting_effects (l : Location) (form : SettingForm) (kind : SettingKind)
    (name value : String) (frame : Frame) (s : State) :
    Effects (.setting form kind name value) l s
      (setting l form kind name value frame s).state := by
  unfold setting Step.state
  dsimp only
  refine ⟨.inr ⟨_, rfl, rfl⟩, .refl _, _, Findings.append_assoc .., ?_⟩
  refine Findings.all_append.2 ⟨Findings.all_errorIf (placedAt_of_places rfl), ?_⟩
  exact placedAt_report s.symbols (.bind kind name value l)

theorem ifTrue_effects (l : Location) (negated : Bool) (name : String) (frame : Frame)
    (s : State) : Effects d l s (ifTrue l negated name frame s).state := by
  unfold ifTrue
  split
  · exact effects_report (all_evaluate (fun _ => placedAt_of_places rfl) ..)
  · exact .refl d l s

theorem includeSuggestion_effects (expected : ExpectedNames) (header : Header) (l : Location)
    (path : String) (frame : Frame) (s : State) :
    Effects d l s (includeSuggestion expected header l path frame s).state := by
  unfold includeSuggestion
  split
  · exact ⟨.inl rfl, ⟨id, id, fun _ => rfl⟩, _, rfl, Findings.all_errorIf (placedAt_of_places rfl)⟩
  · exact .refl d l s

theorem includeFile_effects (l : Location) (path : String) (frame : Frame) (s : State) :
    Effects d l s (includeFile l path frame s).state := by
  unfold includeFile
  split
  · exact .refl d l s
  · exact effects_report (Findings.all_error.2 (placedAt_of_places rfl))

theorem ofBranches_effects (frame : Frame) (s : State)
    (r : Except NestingError Unit × Branches) :
    Effects d l s (Step.ofBranches frame s r).state := by
  rcases r with ⟨_ | _, branches⟩ <;> exact .refl d l s

theorem perform_effects (expected : ExpectedNames) (header : Header) (n : UInt32) (d : Directive)
    (frame : Frame) (s : State) :
    Effects d (.atLine header.source n) s (perform expected header n d frame s).state := by
  have hactive : ∀ {r : Step}, Effects d (.atLine header.source n) s r.state →
      Effects d (.atLine header.source n) s
        (if frame.branches.isActive then r else .next frame s).state := fun hr =>
    Step.of_active (P := fun r => Effects d _ s r.state) (.refl d _ s) fun _ => hr
  cases d with
  | elseBranch => exact ofBranches_effects ..
  | endIf => exact ofBranches_effects ..
  | ifTrue negated name => exact ifTrue_effects ..
  | ifDefined name => exact .refl _ _ s
  | ifUndefined name => exact .refl _ _ s
  | unsupported word condition =>
    exact effects_report (Findings.all_errorIf (placedAt_of_places rfl))
  | boardDetection => exact .refl _ _ s
  | includeSuggestion path => exact includeSuggestion_effects ..
  | setting form kind name value => exact hactive (setting_effects ..)
  | define name value => exact hactive (define_effects ..)
  | includeFile path => exact hactive (includeFile_effects ..)
  | unrecognized => exact hactive (.refl _ _ s)

/-- A line does no more than its directive allows. -/
theorem step_effects (expected : ExpectedNames) (header : Header) (n : UInt32) (text : String)
    (frame : Frame) (s : State) :
    Effects (Directive.classify text) (.atLine header.source n) s
      (step expected header n text frame s).state :=
  .of_report (all_nameFindings (fun _ => placedAt_of_places rfl) frame _)
    (perform_effects expected header n _ frame _)

end Effects

end Scan

end BoardLint
