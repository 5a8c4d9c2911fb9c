import BoardLint.Disk.Snapshot
import BoardLint.Proofs.Scan.Plain

/-!
# Inactive text

A line of an inactive branch matters by the group of its directive, and by nothing else
(`step_of_inactive`): whether it opens, turns or ends a conditional, and whether it is one of the
two comments that count everywhere. So lines of inactive branches may be exchanged for others of
their groups, and nothing is seen of it (`outcome_eq_of_inactive`).
-/

namespace BoardLint

namespace Directive

/-- What matters of a directive in an inactive branch. -/
inductive Group where
  /-- It opens a conditional, with whatever condition. -/
  | opening
  | elseBranch
  | endIf
  | boardDetection
  | includeSuggestion (path : String)
  /-- It does not matter at all. -/
  | other
deriving DecidableEq

/-- The group of a directive. -/
def group : Directive → Group
  | ifTrue .. | ifDefined _ | ifUndefined _ | unsupported .. => .opening
  | elseBranch => .elseBranch
  | endIf => .endIf
  | boardDetection => .boardDetection
  | includeSuggestion path => .includeSuggestion path
  | setting .. | includeFile _ | define .. | unrecognized => .other

/-- The group of a line. -/
def groupOf (text : String) : Group := (classify text).group

end Directive

namespace Scan

/-! ## One line -/

section Step

variable (expected : ExpectedNames) (header : Header) (n : UInt32) {frame : Frame} (state : State)

/-- What a line of an inactive branch does, given its group. -/
def performInactive (g : Directive.Group) (frame : Frame) : Step :=
  match g with
  | .opening => .next (enter frame false) state
  | .elseBranch => .ofBranches frame state frame.branches.flip
  | .endIf => .ofBranches frame state frame.branches.leave
  | .boardDetection => boardDetection header frame state
  | .includeSuggestion path =>
    includeSuggestion expected header (.atLine header.source n) path frame state
  | .other => .next frame state

theorem enter_of_inactive (h : frame.branches.isActive = false) (condition : Bool) :
    enter frame condition = enter frame false := by
  simp [enter, Branches.enter, h]

theorem nameFindings_of_inactive (h : frame.branches.isActive = false) (d : Directive)
    (l : Location) : nameFindings frame d l = ∅ := by
  unfold nameFindings
  cases d.name? <;> simp [h, Findings.errorIf]

@[simp] theorem report_empty : state.report ∅ = state := by
  simp [State.report]

theorem perform_of_inactive (h : frame.branches.isActive = false) (d : Directive) :
    perform expected header n d frame state =
      performInactive expected header n state d.group frame := by
  cases d with
  | ifTrue negated name => simp [perform, ifTrue, h, Directive.group, performInactive]
  | ifDefined name =>
    simp [perform, Directive.group, performInactive, enter_of_inactive h]
  | ifUndefined name =>
    simp [perform, ifUndefined, h, Directive.group, performInactive, enter_of_inactive h]
  | unsupported word condition =>
    simp [perform, unsupported, h, Directive.group, performInactive, Findings.errorIf]
  | elseBranch => rfl
  | endIf => rfl
  | boardDetection => rfl
  | includeSuggestion path => rfl
  | setting form kind name value => simp [perform, h, Directive.group, performInactive]
  | define name value => simp [perform, h, Directive.group, performInactive]
  | includeFile path => simp [perform, h, Directive.group, performInactive]
  | unrecognized => simp [perform, Directive.group, performInactive]

/-- A line of an inactive branch does what its group tells. -/
theorem step_of_inactive (h : frame.branches.isActive = false) (text : String) :
    step expected header n text frame state =
      performInactive expected header n state (Directive.groupOf text) frame := by
  unfold step
  simp only [nameFindings_of_inactive h, report_empty, perform_of_inactive _ _ _ _ h]
  rfl

end Step

/-! ## Runs -/

/-- Two versions of a root header with the same number of lines: wherever the scan of the first one
comes to a line, the line is the same in the second one if its branch is active, and one of the same
group if it is not. -/
structure SameButInactive (c : Context) (source source' : Source) : Prop where
  length : source'.lines.length = source.lines.length
  active : ∀ n p, Reaches c source n p → p.frame.branches.isActive = true →
    source'.lines[n]? = source.lines[n]?
  inactive : ∀ n p, Reaches c source n p → p.frame.branches.isActive = false →
    source'.lines[n]?.map Directive.groupOf = source.lines[n]?.map Directive.groupOf

variable {c : Context} {source source' : Source}

theorem readLine_congr_of_inactive {chain : List Path} {header : Header} {p : Point}
    (h : p.frame.branches.isActive = false) (n : UInt32) {text text' : String}
    (ht : Directive.groupOf text' = Directive.groupOf text) :
    readLine c chain header p (n, text) = readLine c chain header p (n, text') := by
  unfold readLine
  simp only [step_of_inactive _ _ _ _ h, ht]

theorem SameButInactive.readLines_eq (h : SameButInactive c source source') :
    readLines c [source.path] ⟨source, true⟩ source.numberedLines (start source) =
      readLines c [source.path] ⟨source, true⟩ source'.numberedLines (start source) := by
  refine readLines_congr (by simp [Source.numberedLines, h.length]) fun n a b q ha hb hq => ?_
  rw [Source.numberedLines, Source.getElem?_numberFrom, Option.map_eq_some_iff] at ha hb
  obtain ⟨text, ha, rfl⟩ := ha
  obtain ⟨text', hb, rfl⟩ := hb
  cases hact : q.frame.branches.isActive with
  | true =>
    have := h.active n q hq hact
    rw [ha, hb, Option.some.injEq] at this
    rw [this]
  | false =>
    have := h.inactive n q hq hact
    rw [ha, hb, Option.map_some, Option.map_some, Option.some.injEq] at this
    exact readLine_congr_of_inactive hact _ this

theorem SameButInactive.scanSource_eq (h : SameButInactive c source source') :
    scanSource c source =
      scanLines c [source.path] ⟨source, true⟩ source'.numberedLines {} (start source).state := by
  rw [Scan.scanSource_eq, scanLines_eq, h.readLines_eq]
  rfl

/-- Nothing is seen of what the lines of inactive branches say, apart from their groups. -/
theorem outcome_eq_of_inactive {disk disk' : Disk} {path : Path} {text text' : String}
    (hr : disk.read path = .ok text) (hr' : disk'.read path = .ok text')
    (hd : SameNeighbours disk disk' path)
    (hs : SameButInactive (.ofPath disk path) (.ofText path text) (.ofText path text')) :
    outcome (scan disk path) = outcome (scan disk' path) := by
  have hh : Header.plain ⟨.ofText path text, true⟩ = Header.plain ⟨.ofText path text', true⟩ := rfl
  have hstart : SameState (start (.ofText path text)).state (start (.ofText path text')).state :=
    sameState_start rfl
  rw [outcome_scan hr, outcome_scan hr', hs.scanSource_eq]
  exact (scanLines_alike hd.agreeOff hh _ _ hstart).endOutcome

/-- A header of which one line stands in a branch that is not active. -/
def idleSource (line : String) : Source :=
  ⟨⟨"boards/a.h"⟩, ["#ifdef A", line, "#endif", "#define B 1"]⟩

/-- The disk that has this header and nothing else. -/
def idleDisk (line : String) : Disk :=
  Snapshot.disk [(⟨"boards/a.h"⟩, .ok ("#ifdef A\n" ++ line ++ "\n#endif\n#define B 1\n"))]

theorem sameButInactive_idleSource :
    SameButInactive (.ofPath (idleDisk "#define b 1") ⟨"boards/a.h"⟩) (idleSource "#define b 1")
      (idleSource "#include \"a.h\"") := by
  refine ⟨rfl, fun n p hp hact => ?_, fun n p _ _ => ?_⟩
  · match n with
    | 0 => rfl
    | 1 =>
      have hp' := congrArg (fun r => r.toOption.map (·.frame.branches.isActive)) hp
      have hidle : (readLines (.ofPath (idleDisk "#define b 1") ⟨"boards/a.h"⟩) [⟨"boards/a.h"⟩]
          ⟨idleSource "#define b 1", true⟩ [(1, "#ifdef A")]
          (start (idleSource "#define b 1"))).toOption.map (·.frame.branches.isActive) =
            some false := by decide +kernel
      exact absurd (hact.symm.trans (Option.some.inj (hp'.symm.trans hidle))) nofun
    | n + 2 => rfl
  · match n with
    | 0 => rfl
    | 1 => decide +kernel
    | n + 2 => rfl

theorem outcome_eq_of_idle_lines :
    outcome (scan (idleDisk "#define b 1") ⟨"boards/a.h"⟩) =
      outcome (scan (idleDisk "#include \"a.h\"") ⟨"boards/a.h"⟩) := by
  have hr (line : String) : (idleDisk line).read ⟨"boards/a.h"⟩ =
      .ok ("#ifdef A\n" ++ line ++ "\n#endif\n#define B 1\n") :=
    Snapshot.read_disk_cons_self _ _ _
  have hsource : Source.ofText ⟨"boards/a.h"⟩ ("#ifdef A\n" ++ "#define b 1" ++
      "\n#endif\n#define B 1\n") = idleSource "#define b 1" := by decide +kernel
  have hsource' : Source.ofText ⟨"boards/a.h"⟩ ("#ifdef A\n" ++ "#include \"a.h\"" ++
      "\n#endif\n#define B 1\n") = idleSource "#include \"a.h\"" := by decide +kernel
  refine outcome_eq_of_inactive (hr _) (hr _) (sameNeighbours_snapshot _ _ _ _) ?_
  rw [hsource, hsource']
  exact sameButInactive_idleSource

end Scan

end BoardLint
