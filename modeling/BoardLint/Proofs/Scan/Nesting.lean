import BoardLint.Proofs.Scan.Descent

/-!
# Nesting of conditionals

Lines are balanced if every conditional that they open ends, and no line goes on with or ends a
conditional where none is open (`Balanced`). Which condition words open a conditional is a
parameter: for a preprocessor `#elif` does not (`ConditionWord.opens`), for a scan every one of them
does. A scan complains of the nesting of a header exactly if the lines are not balanced in the
second sense (`nests_iff`), which is not the first one where there is an `#elif`.
-/

namespace BoardLint

namespace Directive

/-! ## Levels -/

/-- The level inside of a conditional, if there is one. -/
def inside? : Nat → Option Nat
  | 0 => none
  | level + 1 => some (level + 1)

/-- The number of conditionals that are open behind a line, given the number before it. There is
none if the line goes on with a conditional, or ends one, and none is open. -/
def level? (opens : ConditionWord → Bool) : Directive → Nat → Option Nat
  | ifTrue .., level | ifDefined _, level | ifUndefined _, level => some (level + 1)
  | unsupported word _, level => if opens word then some (level + 1) else inside? level
  | elseBranch, level => inside? level
  | endIf, 0 => none
  | endIf, level + 1 => some level
  | _, level => some level

/-- Is it an `#elif`? Its condition is never understood. -/
def isElseIf : Directive → Bool
  | unsupported .elseIf _ => true
  | _ => false

/-- Every condition word opens a conditional. -/
def allOpen : ConditionWord → Bool := fun _ => true

theorem level?_allOpen {d : Directive} {level level' : Nat} (k : Nat)
    (h : d.level? ConditionWord.opens level = some level') :
    d.level? allOpen (level + k) = some (level' + k + if d.isElseIf then 1 else 0) := by
  cases d with
  | unsupported word condition =>
    cases word with
    | elseIf =>
      cases level with
      | zero => exact absurd h nofun
      | succ level =>
        obtain rfl : level + 1 = level' := Option.some.inj h
        rfl
    | ifTrue | ifDefined | ifUndefined =>
      obtain rfl : level + 1 = level' := Option.some.inj h
      exact congrArg some (Nat.add_right_comm level k 1)
  | elseBranch =>
    cases level with
    | zero => exact absurd h nofun
    | succ level =>
      obtain rfl : level + 1 = level' := Option.some.inj h
      rw [Nat.add_right_comm]
      rfl
  | endIf =>
    cases level with
    | zero => exact absurd h nofun
    | succ level =>
      obtain rfl : level = level' := Option.some.inj h
      rw [Nat.add_right_comm]
      rfl
  | ifTrue | ifDefined | ifUndefined =>
    obtain rfl : level + 1 = level' := Option.some.inj h
    exact congrArg some (Nat.add_right_comm level k 1)
  | setting | includeFile | define | boardDetection | includeSuggestion | unrecognized =>
    obtain rfl : level = level' := Option.some.inj h
    rfl

theorem level?_of_not_isElseIf {d : Directive} (h : d.isElseIf = false) (level : Nat) :
    d.level? allOpen level = d.level? ConditionWord.opens level := by
  cases d with
  | unsupported word condition =>
    cases word with
    | elseIf => exact absurd h nofun
    | ifTrue | ifDefined | ifUndefined => rfl
  | endIf => cases level <;> rfl
  | _ => rfl

/-- Only `#else`, `#endif` and the words that open nothing need a conditional that is open. -/
theorem level?_eq_none_iff {opens : ConditionWord → Bool} {d : Directive} {level : Nat} :
    d.level? opens level = none ↔ level = 0 ∧ (d = elseBranch ∨ d = endIf ∨
      ∃ word condition, d = unsupported word condition ∧ opens word = false) := by
  cases d with
  | elseBranch => cases level <;> simp [level?, inside?]
  | endIf => cases level <;> simp [level?]
  | unsupported word condition =>
    cases hword : opens word <;> cases level <;> simp [level?, inside?, hword]
  | _ => simp [level?]

end Directive

namespace Scan

open Directive (allOpen)

/-- The number of conditionals that are open behind these lines, given the number before them. -/
def level? (opens : ConditionWord → Bool) (lines : List String) (level : Nat) : Option Nat :=
  lines.foldlM (fun level line => (Directive.classify line).level? opens level) level

/-- No line goes on with, or ends, a conditional where none is open, and none is open behind all
lines (`not_balanced_iff`). -/
def Balanced (opens : ConditionWord → Bool) (lines : List String) : Prop :=
  level? opens lines 0 = some 0

instance (opens : ConditionWord → Bool) (lines : List String) : Decidable (Balanced opens lines) :=
  inferInstanceAs (Decidable (_ = _))

/-- Is the line an `#elif`? -/
def isElseIf (line : String) : Bool := (Directive.classify line).isElseIf

section Levels

variable {opens : ConditionWord → Bool} {lines : List String} {level : Nat}

@[simp] theorem level?_nil : level? opens [] level = some level := rfl

@[simp] theorem level?_cons (line : String) :
    level? opens (line :: lines) level =
      ((Directive.classify line).level? opens level).bind (level? opens lines) := rfl

theorem level?_append (more : List String) :
    level? opens (lines ++ more) level = (level? opens lines level).bind (level? opens more) :=
  List.foldlM_append

theorem level?_eq_none_iff :
    level? opens lines level = none ↔
      ∃ before line after, lines = before ++ line :: after ∧ level? opens before level = some 0 ∧
        (Directive.classify line = .elseBranch ∨ Directive.classify line = .endIf ∨
          ∃ word condition, Directive.classify line = .unsupported word condition ∧
            opens word = false) := by
  induction lines generalizing level with
  | nil => simp
  | cons line lines ih =>
    rw [level?_cons]
    constructor
    · intro h
      cases hnext : (Directive.classify line).level? opens level with
      | none =>
        obtain ⟨rfl, hstray⟩ := Directive.level?_eq_none_iff.1 hnext
        exact ⟨[], line, lines, rfl, rfl, hstray⟩
      | some next =>
        rw [hnext, Option.bind_some, ih] at h
        obtain ⟨before, stray, after, rfl, hbefore, hstray⟩ := h
        refine ⟨line :: before, stray, after, rfl, ?_, hstray⟩
        rw [level?_cons, hnext]
        exact hbefore
    · rintro ⟨before, stray, after, hlines, hbefore, hstray⟩
      cases before with
      | nil =>
        obtain ⟨rfl, rfl⟩ := List.cons.inj hlines
        obtain rfl : level = 0 := Option.some.inj hbefore
        rw [Directive.level?_eq_none_iff.2 ⟨rfl, hstray⟩]
        rfl
      | cons first before =>
        obtain ⟨rfl, rfl⟩ := List.cons.inj hlines
        rw [level?_cons, Option.bind_eq_some_iff] at hbefore
        obtain ⟨next, hnext, hbefore⟩ := hbefore
        rw [hnext, Option.bind_some, ih]
        exact ⟨before, stray, after, rfl, hbefore, hstray⟩

/-- Lines are not balanced for one of two reasons: a line stands where no conditional is open, and
needs one, or a conditional is open behind all lines. -/
theorem not_balanced_iff :
    ¬ Balanced opens lines ↔
      (∃ before line after, lines = before ++ line :: after ∧ level? opens before 0 = some 0 ∧
        (Directive.classify line = .elseBranch ∨ Directive.classify line = .endIf ∨
          ∃ word condition, Directive.classify line = .unsupported word condition ∧
            opens word = false)) ∨
      ∃ level, level? opens lines 0 = some (level + 1) := by
  rw [← level?_eq_none_iff, Balanced]
  rcases level? opens lines 0 with _ | _ | level <;> simp

/-- Every `#elif` raises the level by one if it opens a conditional. -/
theorem level?_allOpen {level' : Nat} (k : Nat)
    (h : level? ConditionWord.opens lines level = some level') :
    level? allOpen lines (level + k) = some (level' + k + lines.countP isElseIf) := by
  induction lines generalizing level k with
  | nil =>
    obtain rfl : level = level' := Option.some.inj h
    rfl
  | cons line lines ih =>
    rw [level?_cons, Option.bind_eq_some_iff] at h
    obtain ⟨next, hnext, hrest⟩ := h
    rw [level?_cons, Directive.level?_allOpen k hnext, Option.bind_some, Nat.add_assoc, ih _ hrest,
      List.countP_cons]
    congr 1
    unfold isElseIf
    omega

theorem level?_of_no_elseIf (h : ∀ line ∈ lines, isElseIf line = false) :
    level? allOpen lines level = level? ConditionWord.opens lines level := by
  induction lines generalizing level with
  | nil => rfl
  | cons line lines ih =>
    rw [level?_cons, level?_cons,
      Directive.level?_of_not_isElseIf (h line List.mem_cons_self)]
    cases (Directive.classify line).level? ConditionWord.opens level with
    | none => rfl
    | some next => exact ih fun l hl => h l (List.mem_cons_of_mem _ hl)

end Levels

/-! ## Levels in a scan -/

section Step

variable {expected : ExpectedNames} {header : Header} {n : UInt32} {line : String} {frame : Frame}
  {s : State}

theorem depth_ofBranches_flip :
    (Step.ofBranches frame s frame.branches.flip).frame?.map (·.branches.depth) =
      Directive.inside? frame.branches.depth := by
  obtain ⟨⟨levels, base⟩, lastIfndef, awaits⟩ := frame
  match levels, base with
  | [_], _ => rfl
  | _ :: _ :: _, _ => rfl

theorem depth_ofBranches_leave :
    (Step.ofBranches frame s frame.branches.leave).frame?.map (·.branches.depth) =
      Directive.endIf.level? allOpen frame.branches.depth := by
  obtain ⟨⟨levels, base⟩, lastIfndef, awaits⟩ := frame
  match levels, base with
  | [_], _ => rfl
  | _ :: _ :: _, _ => rfl

theorem depth_enter (condition : Bool) :
    (Step.next (enter frame condition) s).frame?.map (·.branches.depth) =
      some (frame.branches.depth + 1) :=
  congrArg some (frame.branches.depth_enter condition)

/-- What a line does to the number of open conditionals. -/
theorem depth_perform (d : Directive) :
    (perform expected header n d frame s).frame?.map (·.branches.depth) =
      d.level? allOpen frame.branches.depth := by
  cases d with
  | elseBranch => exact depth_ofBranches_flip
  | endIf => exact depth_ofBranches_leave
  | ifTrue negated name =>
    unfold perform ifTrue
    dsimp only
    split
    · exact depth_enter _
    · exact depth_enter false
  | ifDefined name => exact depth_enter _
  | ifUndefined name => exact depth_enter _
  | unsupported word condition => exact depth_enter false
  | boardDetection => rfl
  | includeSuggestion path =>
    unfold perform includeSuggestion
    dsimp only
    split <;> rfl
  | includeFile path =>
    unfold perform includeFile
    dsimp only
    split
    · split <;> rfl
    · rfl
  | setting form kind name value =>
    unfold perform
    dsimp only
    split <;> rfl
  | define name value =>
    unfold perform
    dsimp only
    split <;> rfl
  | unrecognized =>
    unfold perform
    dsimp only
    split <;> rfl

theorem depth_step :
    (step expected header n line frame s).frame?.map (·.branches.depth) =
      (Directive.classify line).level? allOpen frame.branches.depth := depth_perform _

end Step

variable {c : Context} {chain : List Path} {header : Header}

theorem depth_of_readLines {lines : List (UInt32 × String)} {p q : Point}
    (h : readLines c chain header lines p = .ok q) :
    level? allOpen (lines.map Prod.snd) p.frame.branches.depth = some q.frame.branches.depth := by
  induction lines generalizing p with
  | nil =>
    obtain rfl : p = q := Except.ok.inj h
    rfl
  | cons line lines ih =>
    rw [readLines_cons, bind_eq_ok_iff] at h
    obtain ⟨next, hnext, hrest⟩ := h
    have hdepth : (step c.expected header line.1 line.2 p.frame p.state).frame?.map
        (·.branches.depth) = _ := depth_step
    rw [frame?_of_readLine hnext] at hdepth
    rw [List.map_cons, level?_cons, ← hdepth]
    exact ih hrest

/-! ## Nesting errors -/

namespace Visit

variable {v : Visit} {n : Nat} {p : Point} {halt : Halt}

theorem Comes.level? (h : v.Comes c n p) :
    level? allOpen (v.header.source.lines.take n) 0 = some p.frame.branches.depth := by
  have hlines := depth_of_readLines h
  rwa [List.map_take, Source.numberedLines, Source.map_snd_numberFrom] at hlines

/-- The visit ends early with an error of nesting. -/
def Nests (c : Context) (v : Visit) : Prop :=
  ∃ e l s, v.result c = .error ⟨⟨.nesting e, l⟩, s⟩

/-- No other fatal error ends the visit: if it ends early, its own conditionals do not match. -/
def Undisturbed (c : Context) (v : Visit) : Prop :=
  ∀ halt, v.result c = .error halt → v.Halts c halt ∧ ∃ e, halt.cause.cause = .nesting e

/-- A header without includes is not disturbed. -/
theorem undisturbed_of_no_includes
    (h : ∀ line ∈ v.header.source.lines, ∀ path, Directive.classify line ≠ .includeFile path) :
    v.Undisturbed c := by
  have hasks : ∀ {n name p}, ¬ v.Asks c n name p := by
    rintro n name p ⟨-, -, line, hline, path, hinclude, -⟩
    exact h line (List.mem_of_getElem? hline) path hinclude
  intro halt hresult
  rcases result_eq_error_iff_step.1 hresult with hhalts | ⟨w, hdescends, -⟩
  · refine ⟨hhalts, ?_⟩
    cases hhalts with
    | unmatched => exact ⟨_, rfl⟩
    | unterminated => exact ⟨_, rfl⟩
    | cycle asks => exact absurd asks hasks
  · cases hdescends with
    | intro asks => exact absurd asks hasks

/-- A visit whose conditionals do not match has lines that are not balanced. -/
theorem not_balanced_of_halts (h : v.Halts c halt) {e : NestingError}
    (he : halt.cause.cause = .nesting e) : ¬ Balanced allOpen v.header.source.lines := by
  cases h with
  | @unmatched n line p e' s hp hline hstop =>
    have hstep : (step c.expected v.header (Source.lineNumber n) line p.frame p.state).frame?.map
        (·.branches.depth) = _ := depth_step
    rw [hstop] at hstep
    obtain ⟨hn, rfl⟩ := List.getElem?_eq_some_iff.1 hline
    -- the level breaks off at this line, so it cannot be 0 behind all lines
    rw [Balanced, ← List.take_append_drop n v.header.source.lines, level?_append, hp.level?,
      List.drop_eq_getElem_cons hn, Option.bind_some, level?_cons, ← hstep]
    exact nofun
  | @unterminated p e' hp hfinish =>
    have hlevel := hp.level?
    rw [List.take_length] at hlevel
    intro hbalanced
    rw [Balanced, hlevel] at hbalanced
    rw [Branches.finish_eq_ok_iff.2 (Option.some.inj hbalanced)] at hfinish
    exact absurd hfinish nofun
  | cycle => exact absurd he nofun

theorem balanced_of_result_eq_ok {s : State} (h : v.result c = .ok s) :
    Balanced allOpen v.header.source.lines := by
  obtain ⟨p, hp, hclose⟩ := result_eq_ok_iff.1 h
  have hlevel := hp.level?
  rw [List.take_length, (closeFile_eq_ok hclose).1] at hlevel
  exact hlevel

/-- A scan complains of the nesting of a header exactly if its lines are not balanced, where every
condition word counts as opening a conditional. -/
theorem nests_iff (h : v.Undisturbed c) :
    v.Nests c ↔ ¬ Balanced allOpen v.header.source.lines := by
  constructor
  · rintro ⟨e, l, s, hresult⟩
    exact not_balanced_of_halts (h _ hresult).1 rfl
  · intro hbalanced
    cases hresult : v.result c with
    | ok s => exact absurd (balanced_of_result_eq_ok hresult) hbalanced
    | error halt =>
      obtain ⟨-, e, he⟩ := h halt hresult
      obtain ⟨⟨cause, l⟩, s⟩ := halt
      obtain rfl : cause = .nesting e := he
      exact ⟨e, l, s, hresult⟩

end Visit

/-- Where a scan complains of nesting. Every condition word counts as opening a conditional, so the
complaint is right where no line is an `#elif`; but a header that is balanced for a preprocessor is
refused if it has an `#elif`, whatever ends it. -/
theorem nesting_error_iff {v : Visit} (h : v.Undisturbed c) :
    (v.Nests c ↔ ¬ Balanced allOpen v.header.source.lines) ∧
    ((∀ line ∈ v.header.source.lines, isElseIf line = false) →
      (v.Nests c ↔ ¬ Balanced ConditionWord.opens v.header.source.lines)) ∧
    (Balanced ConditionWord.opens v.header.source.lines →
      (v.Nests c ↔ ∃ line ∈ v.header.source.lines, isElseIf line = true)) := by
  refine ⟨v.nests_iff h, fun hnone => ?_, fun hbalanced => ?_⟩
  · rw [v.nests_iff h, Balanced, Balanced, level?_of_no_elseIf hnone]
  · have hlevel : level? allOpen v.header.source.lines 0 =
        some (v.header.source.lines.countP isElseIf) := by
      have hraised := level?_allOpen 0 hbalanced
      rwa [Nat.add_zero, Nat.zero_add] at hraised
    rw [v.nests_iff h, Balanced, hlevel, Option.some_inj, ← ne_eq, ← Nat.pos_iff_ne_zero,
      List.countP_pos_iff]

/-- A header whose only conditional has an `#elif`. -/
def chained : String := "#ifndef A\n#elif B\n#endif\n"

/-- The disk that has this header and nothing else. -/
def chainedDisk : Disk := Snapshot.disk [(⟨"a.h"⟩, .ok chained)]

/-- The visit of this header. -/
def chainedVisit : Visit := .root (.ofText ⟨"a.h"⟩ chained)

theorem undisturbed_chained : chainedVisit.Undisturbed (.ofPath chainedDisk ⟨"a.h"⟩) := by
  have hlines : ∀ line ∈ chainedVisit.header.source.lines,
      (Directive.classify line).isConditional = true := by decide +kernel
  refine Visit.undisturbed_of_no_includes fun line hline path hinclude => ?_
  have hconditional := hlines line hline
  rw [hinclude] at hconditional
  exact absurd hconditional nofun

theorem balanced_chained : Balanced ConditionWord.opens chainedVisit.header.source.lines := by
  decide +kernel

theorem nests_chained :
    chainedVisit.Undisturbed (.ofPath chainedDisk ⟨"a.h"⟩) ∧
      chainedVisit.Nests (.ofPath chainedDisk ⟨"a.h"⟩) :=
  ⟨undisturbed_chained, ((nesting_error_iff undisturbed_chained).2.2 balanced_chained).2
    ⟨"#elif B", by decide +kernel, by decide +kernel⟩⟩

/-- So a scan complains of the nesting of headers that are balanced. -/
theorem nesting_error_of_balanced :
    ¬ ∀ (disk : Disk) (path : Path) (text : String), disk.read path = .ok text →
      ∀ v, Visited (.ofPath disk path) (.ofText path text) v →
        v.Undisturbed (.ofPath disk path) →
        (v.Nests (.ofPath disk path) ↔
          ¬ Balanced ConditionWord.opens v.header.source.lines) := by
  intro h
  have hnests := h chainedDisk ⟨"a.h"⟩ chained rfl chainedVisit .refl undisturbed_chained
  have hopen : ¬ Balanced allOpen chainedVisit.header.source.lines := by decide +kernel
  exact hnests.1 ((chainedVisit.nests_iff undisturbed_chained).2 hopen) balanced_chained

end Scan

end BoardLint
