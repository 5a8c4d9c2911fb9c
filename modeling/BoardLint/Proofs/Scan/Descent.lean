import BoardLint.Proofs.Scan.Inactive
import BoardLint.Proofs.Scan.Runs
import Mathlib.Logic.Relation

/-!
# Descents

A scan visits a header when it comes to its first line, with the headers that are open then and the
state it has reached. From one visit it descends to another at an active include (`Descends`), and
all visits of a scan are those that descents lead to from the root header (`Visited`). A visit ends
early in one of three ways (`Visit.Halts`), and with it all visits above it. What the lines of all
these headers respect is respected by each visit and by each of its lines
(`Visit.result_respects`, `Visit.readLine_respects`).
-/

namespace BoardLint.Scan

variable {c : Context} {chain : List Path} {header : Header} {source : Source}

/-! ## What a line asks for -/

/-- The line includes a header with this name. -/
def Includes (line : String) (name : FileName) : Prop :=
  ∃ path, Directive.classify line = .includeFile path ∧ includedName? path = some name

section Step

variable {expected : ExpectedNames} {n : UInt32} {line : String} {name : FileName}
  {frame frame' : Frame} {s s' : State}

/-- All that a directive can lead to: the next line, another header from an active include, or
nothing, since conditionals do not match. -/
inductive Leads (d : Directive) (frame : Frame) (s : State) : Step → Prop
  | next {f : Frame} {t : State} : Leads d frame s (.next f t)
  | descend {path : String} {name : FileName} (active : frame.branches.isActive = true)
      (directive : d = .includeFile path) (included : includedName? path = some name) :
      Leads d frame s (.descend name frame s)
  | stop {e : NestingError} : Leads d frame s (.stop (.nesting e) s)

theorem perform_leads (expected : ExpectedNames) (header : Header) (n : UInt32) (d : Directive)
    (frame : Frame) (s : State) : Leads d frame s (perform expected header n d frame s) := by
  have hbranches : ∀ r, Leads d frame s (.ofBranches frame s r) := by
    rintro ⟨e | _, branches⟩
    · exact .stop
    · exact .next
  have hactive : ∀ {r : Step}, (frame.branches.isActive = true → Leads d frame s r) →
      Leads d frame s (if frame.branches.isActive then r else .next frame s) :=
    Step.of_active .next
  cases d with
  | elseBranch => exact hbranches _
  | endIf => exact hbranches _
  | ifTrue negated name =>
    unfold perform ifTrue
    dsimp only
    split <;> exact .next
  | ifDefined name => exact .next
  | ifUndefined name => exact .next
  | unsupported word condition => exact .next
  | boardDetection => exact .next
  | includeSuggestion path =>
    unfold perform includeSuggestion
    dsimp only
    split <;> exact .next
  | setting form kind name value => exact hactive fun _ => .next
  | define name value => exact hactive fun _ => .next
  | includeFile path =>
    refine hactive fun ha => ?_
    unfold includeFile
    split
    · rename_i name hname
      exact .descend ha rfl hname
    · exact .next
  | unrecognized => exact hactive fun _ => .next

theorem step_leads (expected : ExpectedNames) (header : Header) (n : UInt32) (line : String)
    (frame : Frame) (s : State) :
    Leads (Directive.classify line) frame
      (s.report (nameFindings frame (Directive.classify line) (.atLine header.source n)))
      (step expected header n line frame s) := perform_leads ..

theorem nesting_of_stop {cause : Issue}
    (h : step expected header n line frame s = .stop cause s') : ∃ e, cause = .nesting e := by
  have hleads := step_leads expected header n line frame s
  rw [h] at hleads
  cases hleads
  exact ⟨_, rfl⟩

theorem step_of_includes (ha : frame.branches.isActive = true) (h : Includes line name) :
    step expected header n line frame s = .descend name frame s := by
  obtain ⟨path, hline, hname⟩ := h
  simp [step, hline, perform, ha, includeFile, hname, nameFindings, Directive.name?]

/-- Only an active include leads to another header. -/
theorem step_eq_descend_iff :
    step expected header n line frame s = .descend name frame' s' ↔
      frame.branches.isActive = true ∧ Includes line name ∧ frame = frame' ∧ s = s' := by
  constructor
  · intro h
    have hleads := step_leads expected header n line frame s
    rw [h] at hleads
    generalize s.report _ = t at hleads
    cases hleads with
    | descend ha hline hname =>
      have hincludes : Includes line name := ⟨_, hline, hname⟩
      rw [step_of_includes ha hincludes] at h
      obtain ⟨-, hframe, hstate⟩ := Step.descend.inj h
      exact ⟨ha, hincludes, hframe, hstate⟩
  · rintro ⟨ha, hincludes, rfl, rfl⟩
    exact step_of_includes ha hincludes

end Step

/-! ## Where a run of lines breaks off -/

/-- An active include enters the header that it names. -/
theorem readLine_of_includes {line : String} {name : FileName} {p : Point}
    (ha : p.frame.branches.isActive = true) (h : Includes line name) (n : UInt32) :
    readLine c chain header p (n, line) =
      (enterFile c chain (.atLine header.source n) name p.state).map fun s => ⟨p.frame, s⟩ := by
  unfold readLine
  rw [step_of_includes ha h]

/-- A run of lines that breaks off does so at one of them. -/
theorem readLines_eq_error_iff {lines : List (UInt32 × String)} {p : Point} {halt : Halt} :
    readLines c chain header lines p = .error halt ↔
      ∃ n line q, lines[n]? = some line ∧ readLines c chain header (lines.take n) p = .ok q ∧
        readLine c chain header q line = .error halt := by
  induction lines generalizing p with
  | nil => simp
  | cons first lines ih =>
    rw [readLines_cons]
    cases hfirst : readLine c chain header p first with
    | error e =>
      constructor
      · intro h
        exact ⟨0, first, p, rfl, rfl, hfirst.trans h⟩
      · rintro ⟨n, line, q, hline, hq, hbreak⟩
        cases n with
        | zero =>
          obtain rfl : first = line := by simpa using hline
          obtain rfl : p = q := Except.ok.inj hq
          exact hfirst.symm.trans hbreak
        | succ n =>
          rw [List.take_succ_cons, readLines_cons, hfirst] at hq
          exact absurd hq nofun
    | ok p' =>
      show readLines c chain header lines p' = .error halt ↔ _
      rw [ih]
      constructor
      · rintro ⟨n, line, q, hline, hq, hbreak⟩
        refine ⟨n + 1, line, q, hline, ?_, hbreak⟩
        rw [List.take_succ_cons, readLines_cons, hfirst]
        exact hq
      · rintro ⟨n, line, q, hline, hq, hbreak⟩
        cases n with
        | zero =>
          obtain rfl : first = line := by simpa using hline
          obtain rfl : p = q := Except.ok.inj hq
          exact absurd (hfirst.symm.trans hbreak) nofun
        | succ n =>
          rw [List.take_succ_cons, readLines_cons, hfirst] at hq
          exact ⟨n, line, q, hline, hq, hbreak⟩

/-! ## Visits -/

/-- A header at whose first line a scan has arrived. -/
structure Visit where
  /-- The paths of the headers that are open, this one included. -/
  chain : List Path
  header : Header
  /-- What has been read before. -/
  state : State

namespace Visit

/-- The visit that a scan starts with. -/
def root (source : Source) : Visit := ⟨[source.path], ⟨source, true⟩, (start source).state⟩

/-- What comes of a visit. -/
def result (c : Context) (v : Visit) : Except Halt State :=
  scanLines c v.chain v.header v.header.source.numberedLines {} v.state

/-- The first lines of a visit, of which the number is given, lead to this point. -/
def Comes (c : Context) (v : Visit) (n : Nat) (p : Point) : Prop :=
  readLines c v.chain v.header (v.header.source.numberedLines.take n) ⟨{}, v.state⟩ = .ok p

/-- Behind the first lines of a visit stands an active include of a header with this name. -/
structure Asks (c : Context) (v : Visit) (n : Nat) (name : FileName) (p : Point) : Prop where
  comes : v.Comes c n p
  active : p.frame.branches.isActive = true
  includes : ∃ line, v.header.source.lines[n]? = some line ∧ Includes line name

/-- The visit of an included header. -/
def below (c : Context) (v : Visit) (name : FileName) (text : String) (s : State) : Visit :=
  ⟨v.chain ++ [c.directory.child name], ⟨.ofText (c.directory.child name) text, false⟩, s⟩

end Visit

/-- One visit leads to another: an active include names a header that is not open and can be
read. -/
inductive Descends (c : Context) (v : Visit) : Visit → Prop
  | intro {n : Nat} {name : FileName} {p : Point} {text : String} (asks : v.Asks c n name p)
      (closed : ¬ isOpen v.chain (c.directory.child name) = true)
      (read : c.disk.read (c.directory.child name) = .ok text) :
      Descends c v (v.below c name text p.state)

/-- What holds of a visit whenever it holds of those that it leads to holds of every visit. -/
theorem Visit.induction {P : Visit → Prop} (h : ∀ v, (∀ w, Descends c v w → P w) → P v)
    (v : Visit) : P v := by
  have hchain : ∀ chain, ∀ v : Visit, v.chain = chain → P v := by
    refine descent_induction (c := c) fun chain ih v hv => h v fun w hdescends => ?_
    cases hdescends with
    | intro asks closed read =>
      subst hv
      exact ih _ _ read closed _ rfl
  exact hchain v.chain v rfl

/-- The scan of a root header comes to a visit. -/
def Visited (c : Context) (source : Source) : Visit → Prop :=
  Relation.ReflTransGen (Descends c) (.root source)

namespace Visit

/-- How a visit ends early at a line of its own, or behind them: its conditionals do not match, or
it includes a header that is open. -/
inductive Halts (c : Context) (v : Visit) : Halt → Prop
  | unmatched {n : Nat} {line : String} {p : Point} {e : NestingError} {s : State}
      (comes : v.Comes c n p) (line_eq : v.header.source.lines[n]? = some line)
      (stop : step c.expected v.header (Source.lineNumber n) line p.frame p.state =
        .stop (.nesting e) s) :
      Halts c v ⟨⟨.nesting e, .atLine v.header.source (Source.lineNumber n)⟩, s⟩
  | unterminated {p : Point} {e : NestingError}
      (comes : v.Comes c v.header.source.lines.length p)
      (finish : p.frame.branches.finish = .error e) :
      Halts c v ⟨⟨.nesting e, .whole v.header.source⟩, p.state⟩
  | cycle {n : Nat} {name : FileName} {p : Point} (asks : v.Asks c n name p)
      (opened : isOpen v.chain (c.directory.child name) = true) :
      Halts c v ⟨⟨.includeCycle (v.chain ++ [c.directory.child name]),
        .atLine v.header.source (Source.lineNumber n)⟩, p.state⟩

theorem enterFile_eq_error_iff {l : Location} {name : FileName} {s : State} {halt : Halt} :
    enterFile c chain l name s = .error halt ↔
      (isOpen chain (c.directory.child name) = true ∧
        halt = ⟨⟨.includeCycle (chain ++ [c.directory.child name]), l⟩, s⟩) ∨
      (¬ isOpen chain (c.directory.child name) = true ∧ ∃ text,
        c.disk.read (c.directory.child name) = .ok text ∧
        scanLines c (chain ++ [c.directory.child name])
          ⟨.ofText (c.directory.child name) text, false⟩
          (Source.ofText (c.directory.child name) text).numberedLines {} s = .error halt) := by
  by_cases hopen : isOpen chain (c.directory.child name) = true
  · rw [enterFile_of_open hopen]
    simp [hopen, eq_comm]
  · cases hread : c.disk.read (c.directory.child name) with
    | error reason =>
      rw [enterFile_of_unreadable hopen hread]
      simp [hopen]
    | ok text =>
      rw [enterFile_of_text hopen hread]
      simp [hopen]

theorem closeFile_eq_error_iff {p : Point} {halt : Halt} :
    closeFile header p = .error halt ↔ ∃ e, p.frame.branches.finish = .error e ∧
      halt = ⟨⟨.nesting e, .whole header.source⟩, p.state⟩ := by
  unfold closeFile
  cases p.frame.branches.finish <;> simp [eq_comm]

variable {v : Visit} {n : Nat} {name : FileName} {p : Point} {line : String} {halt : Halt}

theorem comes_length_iff :
    v.Comes c v.header.source.lines.length p ↔
      readLines c v.chain v.header v.header.source.numberedLines ⟨{}, v.state⟩ = .ok p := by
  have hlength : v.header.source.lines.length = v.header.source.numberedLines.length :=
    v.header.source.length_numberedLines.symm
  rw [Comes, hlength, List.take_length]

/-- A visit that ends has come to the end of its lines, with no conditional open. -/
theorem result_eq_ok_iff {s : State} :
    v.result c = .ok s ↔ ∃ p, v.Comes c v.header.source.lines.length p ∧
      closeFile v.header p = .ok s := by
  simp only [result, scanLines_eq, bind_eq_ok_iff, comes_length_iff]

/-- A visit ends early at one of its lines, or behind all of them. -/
theorem result_eq_error_cases :
    v.result c = .error halt ↔
      (∃ n line p, v.header.source.lines[n]? = some line ∧ v.Comes c n p ∧
        readLine c v.chain v.header p (Source.lineNumber n, line) = .error halt) ∨
      ∃ p, v.Comes c v.header.source.lines.length p ∧ closeFile v.header p = .error halt := by
  have hlines : (∃ n line p, v.header.source.lines[n]? = some line ∧ v.Comes c n p ∧
      readLine c v.chain v.header p (Source.lineNumber n, line) = .error halt) ↔
      readLines c v.chain v.header v.header.source.numberedLines ⟨{}, v.state⟩ = .error halt := by
    rw [readLines_eq_error_iff]
    simp only [Source.getElem?_numberedLines, Option.map_eq_some_iff, Comes]
    constructor
    · rintro ⟨n, line, p, hline, hp, hbreak⟩
      exact ⟨n, _, p, ⟨line, hline, rfl⟩, hp, hbreak⟩
    · rintro ⟨n, _, p, ⟨line, hline, rfl⟩, hp, hbreak⟩
      exact ⟨n, line, p, hline, hp, hbreak⟩
  rw [hlines]
  simp only [result, scanLines_eq, comes_length_iff]
  cases readLines c v.chain v.header v.header.source.numberedLines ⟨{}, v.state⟩ with
  | error e => simp [Except.bind]
  | ok p => simp [Except.bind]

/-! ## How visits end early -/

/-- An active include hands on what comes of entering the header that it names. -/
theorem Asks.result_of_error (h : v.Asks c n name p)
    (he : enterFile c v.chain (.atLine v.header.source (Source.lineNumber n)) name p.state =
      .error halt) : v.result c = .error halt := by
  obtain ⟨line, hline, hincludes⟩ := h.includes
  refine result_eq_error_cases.2 (.inl ⟨n, line, p, hline, h.comes, ?_⟩)
  rw [readLine_of_includes h.active hincludes, map_eq_error_iff]
  exact he

theorem halts_of_readLine (hline : v.header.source.lines[n]? = some line) (hp : v.Comes c n p)
    (h : readLine c v.chain v.header p (Source.lineNumber n, line) = .error halt) :
    v.Halts c halt ∨ ∃ w, Descends c v w ∧ w.result c = .error halt := by
  cases hs : step c.expected v.header (Source.lineNumber n) line p.frame p.state with
  | next frame s =>
    rw [readLine, hs] at h
    cases h
  | stop cause s =>
    rw [readLine, hs] at h
    obtain ⟨e, rfl⟩ := nesting_of_stop hs
    rw [← Except.error.inj h]
    exact .inl (.unmatched hp hline hs)
  | descend name frame s =>
    obtain ⟨ha, hincludes, -, -⟩ := step_eq_descend_iff.1 hs
    have hasks : v.Asks c n name p := ⟨hp, ha, line, hline, hincludes⟩
    rw [readLine_of_includes ha hincludes, map_eq_error_iff, enterFile_eq_error_iff] at h
    rcases h with ⟨hopen, rfl⟩ | ⟨hclosed, text, hread, hinner⟩
    · exact .inl (.cycle hasks hopen)
    · exact .inr ⟨_, .intro hasks hclosed hread, hinner⟩

theorem Halts.result (h : v.Halts c halt) : v.result c = .error halt := by
  cases h with
  | @unmatched n line p e s hp hline hstop =>
    refine result_eq_error_cases.2 (.inl ⟨n, line, p, hline, hp, ?_⟩)
    unfold readLine
    rw [hstop]
  | @unterminated p e hp hfinish =>
    exact result_eq_error_cases.2 (.inr ⟨p, hp, closeFile_eq_error_iff.2 ⟨e, hfinish, rfl⟩⟩)
  | cycle hasks hopen => exact hasks.result_of_error (enterFile_of_open hopen _ _)

end Visit

variable {v w : Visit} {halt : Halt}

theorem Descends.result (h : Descends c v w) (hw : w.result c = .error halt) :
    v.result c = .error halt := by
  cases h with
  | intro hasks hclosed hread =>
    exact hasks.result_of_error ((enterFile_of_text hclosed hread _ _).trans hw)

namespace Visit

/-- A visit ends early where it halts itself, or where a visit below it ends early. -/
theorem result_eq_error_iff_step :
    v.result c = .error halt ↔
      v.Halts c halt ∨ ∃ w, Descends c v w ∧ w.result c = .error halt := by
  constructor
  · intro h
    rcases result_eq_error_cases.1 h with ⟨n, line, p, hline, hp, hbreak⟩ | ⟨p, hp, hclose⟩
    · exact halts_of_readLine hline hp hbreak
    · obtain ⟨e, hfinish, rfl⟩ := closeFile_eq_error_iff.1 hclose
      exact .inl (.unterminated hp hfinish)
  · rintro (h | ⟨w, hdescends, hw⟩)
    · exact h.result
    · exact hdescends.result hw

/-- A visit ends early exactly when one that descents lead to from it halts. -/
theorem result_eq_error_iff :
    v.result c = .error halt ↔ ∃ w, Relation.ReflTransGen (Descends c) v w ∧ w.Halts c halt := by
  constructor
  · induction v using Visit.induction (c := c) with
    | h v ih =>
      intro h
      rcases result_eq_error_iff_step.1 h with hhalts | ⟨w, hdescends, hw⟩
      · exact ⟨v, .refl, hhalts⟩
      · obtain ⟨u, hu, hhalts⟩ := ih w hdescends hw
        exact ⟨u, .head hdescends hu, hhalts⟩
  · rintro ⟨w, hvisits, hhalts⟩
    -- the error is handed up, from one visit to the one above it
    induction hvisits using Relation.ReflTransGen.head_induction_on with
    | refl => exact hhalts.result
    | head hdescends _ ih => exact hdescends.result ih

end Visit

/-- A scan ends early exactly when one of its visits halts. -/
theorem scanSource_eq_error_iff :
    scanSource c source = .error halt ↔ ∃ v, Visited c source v ∧ v.Halts c halt :=
  Visit.result_eq_error_iff (v := .root source)

/-! ## What visits keep -/

section Respect

variable {H : Header → Prop} {R : State → State → Prop} {n : Nat} {text : String} {p : Point}

/-- A line of a visit respects a relation if the lines of its header do, and the visits below. -/
theorem Visit.readLine_respects_of_below (hR : Respected c H R) (hv : H v.header)
    (hbelow : ∀ w, Descends c v w → R w.state (left (w.result c)))
    (hline : v.header.source.lines[n]? = some text) (hp : v.Comes c n p) :
    R p.state
      (left ((readLine c v.chain v.header p (Source.lineNumber n, text)).map Point.state)) := by
  have htext := Source.mem_numberedLines hline
  refine readLine_respects (R := R) hR.trans (hR.step hv htext p.frame p.state)
    fun name frame s hs => ?_
  obtain ⟨ha, hincludes, -, rfl⟩ := step_eq_descend_iff.1 hs
  refine enterFile_respects hR.refl (hR.unreadable hv htext · · p.state) fun text' hread hopen => ?_
  exact hbelow _ (.intro ⟨hp, ha, text, hline, hincludes⟩ hopen hread)

/-- A visit respects what is respected by the lines of all headers that descents lead to. -/
theorem Visit.result_respects (hR : Respected c H R)
    (hH : ∀ w, Relation.ReflTransGen (Descends c) v w → H w.header) :
    R v.state (left (v.result c)) := by
  induction v using Visit.induction (c := c) with
  | h v ih =>
    rw [Visit.result, scanLines_eq, left_closeFile]
    refine readLines_respects hR.refl hR.trans (p := ⟨{}, v.state⟩) fun n line q hline hq => ?_
    rw [Source.getElem?_numberedLines] at hline
    obtain ⟨text, htext, rfl⟩ := Option.map_eq_some_iff.1 hline
    refine Visit.readLine_respects_of_below hR (hH v .refl) (fun w hw => ?_) htext hq
    exact ih w hw fun u hu => hH u (.head hw hu)

/-- So does each of its lines, with all that the line includes. -/
theorem Visit.readLine_respects (hR : Respected c H R)
    (hH : ∀ w, Relation.ReflTransGen (Descends c) v w → H w.header)
    (hline : v.header.source.lines[n]? = some text) (hp : v.Comes c n p) :
    R p.state
      (left ((readLine c v.chain v.header p (Source.lineNumber n, text)).map Point.state)) :=
  readLine_respects_of_below hR (hH v .refl)
    (fun _ hw => result_respects hR fun u hu => hH u (.head hw hu)) hline hp

end Respect

end BoardLint.Scan
