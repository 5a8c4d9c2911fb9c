import BoardLint.Board
import BoardLint.Directive.Classify

/-!
# One line of a header

What a line does depends on its directive, on the branches of conditionals that it stands in, and
on what has been read before it. `step` treats one line: it goes on to the next one, asks for the
descent into another header, or stops the scan.
-/

namespace BoardLint.Scan

/-- What all headers of a scan share. -/
structure State where
  symbols : Symbols := ∅
  markers : Markers := {}
  findings : Findings Issue := ∅

instance : Inhabited State := ⟨{}⟩

/-- More findings. -/
def State.report (s : State) (found : Findings Issue) : State :=
  { s with findings := s.findings ++ found }

/-- What is remembered from line to line of one header. -/
structure Frame where
  /-- The conditionals that are open. -/
  branches : Branches := .none
  /-- The name and the line of the last active `#ifndef`. -/
  lastIfndef : Option (String × UInt32) := none
  /-- Has the comment been read that announces the board-detection define? -/
  awaitsDetection : Bool := false
deriving Inhabited

/-- A header that is read. -/
structure Header where
  source : Source
  /-- Is it the one that the scan started from? Only this one gives names of its own. -/
  isRoot : Bool

/-- What follows from a line. -/
inductive Step where
  /-- The next line follows. -/
  | next (frame : Frame) (state : State)
  /-- Another header follows, and then the next line. -/
  | descend (name : FileName) (frame : Frame) (state : State)
  /-- Nothing follows. -/
  | stop (cause : Issue) (state : State)

namespace Step

/-- Goes on with the branches that a line leads to, or stops if conditionals do not match. -/
def ofBranches (frame : Frame) (state : State) : Except NestingError Unit × Branches → Step
  | (.ok (), branches) => next { frame with branches := branches } state
  | (.error e, _) => stop (.nesting e) state

end Step

/-! ## Conditionals -/

/-- Does the condition on a name hold? A name may be an integer literal; one that is not defined is
reported and counts as false. -/
def evaluate (symbols : Symbols) (name : String) (location : Location) : Bool × Findings Issue :=
  match Numeral.parse? name with
  | some n => (n != 0, ∅)
  | none =>
    match symbols.lookup name with
    | some d => (d.resolved.any Value.truthy, ∅)
    | none => (false, .error (.undefinedCondition name) location)

/-- A conditional opens. -/
def enter (frame : Frame) (condition : Bool) : Frame :=
  { frame with branches := frame.branches.enter condition }

/-- `#if NAME` or `#if !NAME`: in an inactive branch the condition is not evaluated. -/
def ifTrue (location : Location) (negated : Bool) (name : String) (frame : Frame)
    (state : State) : Step :=
  if frame.branches.isActive then
    let (value, found) := evaluate state.symbols name location
    .next (enter frame (value != negated)) (state.report found)
  else .next (enter frame false) state

/-- `#ifndef NAME`: an active one is remembered for the define that may follow. -/
def ifUndefined (line : UInt32) (name : String) (frame : Frame) (state : State) : Step :=
  let lastIfndef := if frame.branches.isActive then some (name, line) else frame.lastIfndef
  .next (enter { frame with lastIfndef := lastIfndef } (!state.symbols.isDefined name)) state

/-- A conditional that is not understood opens an inactive branch. -/
def unsupported (location : Location) (word : ConditionWord) (condition : String) (frame : Frame)
    (state : State) : Step :=
  .next (enter frame false) <| state.report <|
    .errorIf frame.branches.isActive (.unsupportedConditional word condition) location

/-! ## Defines -/

/-- The name of the `#ifndef` on the line before. -/
def precedingIfndef? (frame : Frame) (line : UInt32) : Option String :=
  match frame.lastIfndef with
  | some (name, n) => if n + 1 = line then some name else none
  | none => none

/-- A define right behind an `#ifndef` should have its name. -/
def ifndefFindings (preceding : Option String) (name : String) (location : Location) :
    Findings Issue :=
  match preceding with
  | some ifndef => .errorIf (ifndef ≠ name) (.ifndefMismatch ifndef name) location
  | none => ∅

/-- An include guard follows an `#ifndef`, has no value, is the first define and has the name that
the path asks for. -/
def guardFindings (expected : ExpectedNames) (symbols : Symbols) (preceding : Option String)
    (name : String) (value : Option String) (location : Location) : Findings Issue :=
  .errorIf (preceding = none) (.guardWithoutIfndef name) location ++
    .errorIf (value ≠ none) (.guardValue name) location ++
    .errorIf (symbols.declaredCount > 0) (.guardNotFirst name) location ++
    .errorIf (name ≠ expected.guard) (.guardName name expected.guard) location

/-- The name of a board-detection define and the one that the path asks for: one is an end of the
other. -/
def detectionMatches (expected : ExpectedNames) (name : String) : Bool :=
  Text.endsWith expected.detection name || Text.endsWith name expected.detection

/-- A board-detection define has no value, and a name that fits the path. -/
def detectionFindings (expected : ExpectedNames) (name : String) (value : Option String)
    (location : Location) : Findings Issue :=
  .errorIf (value ≠ none) (.detectionValue name) location ++
    .errorIf (¬ detectionMatches expected name) (.detectionName name expected.detection) location

/-- `#define`, in an active branch. -/
def define (expected : ExpectedNames) (header : Header) (line : UInt32) (name : String)
    (value : Option String) (frame : Frame) (state : State) : Step :=
  let location := Location.atLine header.source line
  let preceding := precedingIfndef? frame line
  let isGuard := header.isRoot && ExpectedNames.isGuardShaped name
  let isDetection := header.isRoot && frame.awaitsDetection
  let found :=
    ifndefFindings preceding name location ++
      (if isGuard then guardFindings expected state.symbols preceding name value location else ∅) ++
      if isDetection then detectionFindings expected name value location else ∅
  let (symbols, more) := state.symbols.define name value location
  .next { frame with awaitsDetection := frame.awaitsDetection && !header.isRoot }
    { symbols := symbols
      markers := { state.markers with
        guard := state.markers.guard || isGuard
        detection := state.markers.detection || isDetection }
      findings := state.findings ++ found ++ more }

/-! ## Other lines -/

/-- A name of an active line has no lower-case letters. -/
def nameFindings (frame : Frame) (d : Directive) (location : Location) : Findings Issue :=
  match d.name? with
  | some name =>
    .errorIf (frame.branches.isActive ∧ ¬ Text.isUpperName name) (.lowercase name) location
  | none => ∅

/-- A setting, in an active branch. Settings are no longer written as comments. -/
def setting (location : Location) (form : SettingForm) (kind : SettingKind) (name value : String)
    (frame : Frame) (state : State) : Step :=
  let found := .errorIf (form = .comment) (.legacySetting kind name value) location
  let (symbols, more) := state.symbols.bind kind name value location
  .next frame { state with symbols := symbols, findings := state.findings ++ found ++ more }

/-- The comment that announces the board-detection define counts in the root header. -/
def boardDetection (header : Header) (frame : Frame) (state : State) : Step :=
  .next { frame with awaitsDetection := frame.awaitsDetection || header.isRoot } state

/-- The suggestion of how to include the header counts in the root header. -/
def includeSuggestion (expected : ExpectedNames) (header : Header) (location : Location)
    (path : String) (frame : Frame) (state : State) : Step :=
  if header.isRoot then
    .next frame <| { state with markers := { state.markers with suggestion := true } }.report <|
      .errorIf (path ≠ expected.includePath) (.suggestionMismatch path expected.includePath)
        location
  else .next frame state

/-- The header that an include names: its path ends in `.h`, and is a single name or starts with
the directory of the boards. -/
def includedName? (path : String) : Option FileName :=
  if Text.endsWith ".h" path ∧ ('/' ∉ path.toList ∨ Text.startsWith "boards/" path) then
    (Path.mk path).fileName?
  else none

/-- `#include`, in an active branch. -/
def includeFile (location : Location) (path : String) (frame : Frame) (state : State) : Step :=
  match includedName? path with
  | some name => .descend name frame state
  | none => .next frame (state.report (.error (.badInclude path) location))

/-- What a directive does. Conditionals and the two comments for the root header count in every
branch, all else counts in an active one. -/
def perform (expected : ExpectedNames) (header : Header) (line : UInt32) (d : Directive)
    (frame : Frame) (state : State) : Step :=
  let location := Location.atLine header.source line
  match d with
  | .elseBranch => .ofBranches frame state frame.branches.flip
  | .endIf => .ofBranches frame state frame.branches.leave
  | .ifTrue negated name => ifTrue location negated name frame state
  | .ifDefined name => .next (enter frame (state.symbols.isDefined name)) state
  | .ifUndefined name => ifUndefined line name frame state
  | .unsupported word condition => unsupported location word condition frame state
  | .boardDetection => boardDetection header frame state
  | .includeSuggestion path => includeSuggestion expected header location path frame state
  | d =>
    if frame.branches.isActive then
      match d with
      | .setting form kind name value => setting location form kind name value frame state
      | .define name value => define expected header line name value frame state
      | .includeFile path => includeFile location path frame state
      | _ => .next frame state
    else .next frame state

/-- One line. -/
def step (expected : ExpectedNames) (header : Header) (line : UInt32) (text : String)
    (frame : Frame) (state : State) : Step :=
  let d := Directive.classify text
  let found := nameFindings frame d (.atLine header.source line)
  perform expected header line d frame (state.report found)

end BoardLint.Scan
