import BoardLint.Disk.Snapshot
import BoardLint.Proofs.Symbols.Relocate
import BoardLint.Scan

/-!
# A scan, line by line

`scanLines` descends into other headers in the midst of its recursion over lines. Here the two are
taken apart: `readLine` is one line with all that it includes, `readLines` is one line after the
other, and a header is read by reading its lines and closing it (`scanLines_eq`). What is true of
every header that a scan may enter is proved by `descent_induction`.
-/

namespace BoardLint.Scan

variable {c : Context} {chain : List Path} {header : Header}

/-- What is known between two lines of a header. -/
structure Point where
  frame : Frame
  state : State

/-- The header ends, where no conditional may be open. -/
def closeFile (header : Header) (p : Point) : Except Halt State :=
  match p.frame.branches.finish with
  | .ok () => .ok p.state
  | .error e => .error ⟨⟨.nesting e, .whole header.source⟩, p.state⟩

theorem closeFile_eq_ok {p : Point} {s : State} (h : closeFile header p = .ok s) :
    p.frame.branches = .none ∧ s = p.state := by
  unfold closeFile at h
  cases hf : p.frame.branches.finish with
  | error e =>
    rw [hf] at h
    exact absurd h nofun
  | ok u =>
    rw [hf] at h
    have hd : p.frame.branches.depth = 0 := Branches.finish_eq_ok_iff.1 hf
    exact ⟨Branches.depth_eq_zero_iff.1 hd, (Except.ok.inj h).symm⟩

/-- An included header is read, unless it is open already or cannot be read. -/
def enterFile (c : Context) (chain : List Path) (location : Location) (name : FileName)
    (state : State) : Except Halt State :=
  let target := c.directory.child name
  if isOpen chain target then .error ⟨⟨.includeCycle (chain ++ [target]), location⟩, state⟩
  else
    match c.disk.read target with
    | .error reason => .ok (state.report (.error (.unreadable target reason) location))
    | .ok text =>
      let source := Source.ofText target text
      scanLines c (chain ++ [target]) ⟨source, false⟩ source.numberedLines {} state

/-- One line, with all that it includes. -/
def readLine (c : Context) (chain : List Path) (header : Header) (p : Point)
    (line : UInt32 × String) : Except Halt Point :=
  match step c.expected header line.1 line.2 p.frame p.state with
  | .next frame state => .ok ⟨frame, state⟩
  | .stop cause state => .error ⟨⟨cause, .atLine header.source line.1⟩, state⟩
  | .descend name frame state =>
    (enterFile c chain (.atLine header.source line.1) name state).map fun s => ⟨frame, s⟩

/-- One line after the other. -/
def readLines (c : Context) (chain : List Path) (header : Header) (lines : List (UInt32 × String))
    (p : Point) : Except Halt Point := lines.foldlM (readLine c chain header) p

@[simp] theorem readLines_nil (p : Point) : readLines c chain header [] p = .ok p := rfl

@[simp] theorem readLines_cons (line : UInt32 × String) (lines : List (UInt32 × String))
    (p : Point) :
    readLines c chain header (line :: lines) p =
      (readLine c chain header p line).bind (readLines c chain header lines) := rfl

theorem readLines_append (as bs : List (UInt32 × String)) (p : Point) :
    readLines c chain header (as ++ bs) p =
      (readLines c chain header as p).bind (readLines c chain header bs) := by
  simp only [readLines, List.foldlM_append]
  rfl

/-- Two lists of lines may take each other's place if, wherever the first one leads, the lines that
stand there do the same. -/
theorem readLines_congr {as bs : List (UInt32 × String)} {p : Point} (hl : as.length = bs.length)
    (h : ∀ n a b q, as[n]? = some a → bs[n]? = some b →
      readLines c chain header (as.take n) p = .ok q →
      readLine c chain header q a = readLine c chain header q b) :
    readLines c chain header as p = readLines c chain header bs p := by
  induction as generalizing bs p with
  | nil =>
    rw [List.length_eq_zero_iff.1 hl.symm]
  | cons a as ih =>
    obtain ⟨b, bs, rfl⟩ := List.exists_cons_of_length_eq_add_one hl.symm
    have hab : readLine c chain header p a = readLine c chain header p b :=
      h 0 a b p rfl rfl rfl
    rw [readLines_cons, readLines_cons, ← hab]
    cases hq : readLine c chain header p a with
    | error halt => rfl
    | ok q =>
      refine ih (by simpa using hl) fun n a' b' q' ha hb hr => ?_
      refine h (n + 1) a' b' q' ha hb ?_
      rw [List.take_succ_cons, readLines_cons, hq]
      exact hr

theorem enterFile_of_open {name : FileName} (h : isOpen chain (c.directory.child name) = true)
    (l : Location) (s : State) :
    enterFile c chain l name s =
      .error ⟨⟨.includeCycle (chain ++ [c.directory.child name]), l⟩, s⟩ := by
  simp only [enterFile, h, if_true]

theorem enterFile_of_unreadable {name : FileName} {reason : ReadError}
    (h : ¬ isOpen chain (c.directory.child name) = true)
    (hr : c.disk.read (c.directory.child name) = .error reason) (l : Location) (s : State) :
    enterFile c chain l name s =
      .ok (s.report (.error (.unreadable (c.directory.child name) reason) l)) := by
  simp only [enterFile, if_neg h, hr]

theorem enterFile_of_text {name : FileName} {text : String}
    (h : ¬ isOpen chain (c.directory.child name) = true)
    (hr : c.disk.read (c.directory.child name) = .ok text) (l : Location) (s : State) :
    enterFile c chain l name s =
      scanLines c (chain ++ [c.directory.child name])
        ⟨.ofText (c.directory.child name) text, false⟩
        (Source.ofText (c.directory.child name) text).numberedLines {} s := by
  simp only [enterFile, if_neg h, hr]

/-- A header is read by reading its lines and closing it. -/
theorem scanLines_eq (lines : List (UInt32 × String)) (frame : Frame) (state : State) :
    scanLines c chain header lines frame state =
      (readLines c chain header lines ⟨frame, state⟩).bind (closeFile header) := by
  induction lines generalizing frame state with
  | nil =>
    rw [scanLines]
    rfl
  | cons line lines ih =>
    obtain ⟨n, text⟩ := line
    rw [scanLines, readLines_cons, readLine]
    cases step c.expected header n text frame state with
    | next frame state => exact ih frame state
    | stop cause state => rfl
    | descend name frame state =>
      dsimp only
      split
      · rename_i hopen
        rw [enterFile_of_open hopen]
        rfl
      · rename_i hopen
        split
        · rename_i reason hread
          rw [enterFile_of_unreadable hopen hread]
          exact ih _ _
        · rename_i text hread
          rw [enterFile_of_text hopen hread]
          cases scanLines c (chain ++ [c.directory.child name]) _ _ {} state with
          | ok state => exact ih frame state
          | error halt => rfl

/-- What holds of a chain whenever it holds of those that a descent leads to from there holds of
every chain. -/
theorem descent_induction {P : List Path → Prop}
    (h : ∀ chain, (∀ name text, c.disk.read (c.directory.child name) = .ok text →
      ¬ isOpen chain (c.directory.child name) = true →
      P (chain ++ [c.directory.child name])) → P chain) (chain : List Path) : P chain :=
  h chain fun name _ _hread _hopen => descent_induction h (chain ++ [c.directory.child name])
termination_by enterable c chain
decreasing_by exact enterable_append_lt _hread _hopen

/-! ## Disks that differ where nothing is read -/

/-- Two contexts that show the same, except of headers that are open. -/
structure AgreeOff (chain : List Path) (c c' : Context) : Prop where
  directory : c'.directory = c.directory
  expected : c'.expected = c.expected
  read : ∀ name, ¬ isOpen chain (c.directory.child name) = true →
    c'.disk.read (c.directory.child name) = c.disk.read (c.directory.child name)

theorem isOpen_append_left {target : Path} (h : isOpen chain target = true) (more : List Path) :
    isOpen (chain ++ more) target = true := by
  simp only [isOpen, List.any_append, Bool.or_eq_true] at h ⊢
  exact .inl h

theorem AgreeOff.append {c' : Context} (h : AgreeOff chain c c') (more : List Path) :
    AgreeOff (chain ++ more) c c' :=
  ⟨h.directory, h.expected, fun name hn => h.read name fun ho => hn (isOpen_append_left ho more)⟩

/-- A header that is not open is the same in both contexts. -/
theorem AgreeOff.target {c' : Context} (h : AgreeOff chain c c') {name : FileName}
    (ho : ¬ isOpen chain (c.directory.child name) = true) :
    ¬ isOpen chain (c'.directory.child name) = true ∧
      c'.disk.read (c'.directory.child name) = c.disk.read (c.directory.child name) := by
  rw [h.directory]
  exact ⟨ho, h.read name ho⟩

/-- The two disks show the same of all headers that a header at this path may include. -/
def SameNeighbours (disk disk' : Disk) (path : Path) : Prop :=
  ∀ name, path.same (path.directory.child name) = false →
    disk'.read (path.directory.child name) = disk.read (path.directory.child name)

theorem SameNeighbours.agreeOff {disk disk' : Disk} {path : Path}
    (h : SameNeighbours disk disk' path) :
    AgreeOff [path] (.ofPath disk path) (.ofPath disk' path) := by
  refine ⟨rfl, rfl, fun name hn => h name ?_⟩
  simp only [isOpen, List.any_cons, List.any_nil, Bool.or_false, Bool.not_eq_true] at hn
  exact hn

/-- Two snapshots that differ in one file show the same of its neighbours. -/
theorem sameNeighbours_snapshot (path : Path) (r r' : Except ReadError String) (s : Snapshot) :
    SameNeighbours (Snapshot.disk ((path, r) :: s)) (Snapshot.disk ((path, r') :: s)) path := by
  intro name hn
  have hne : path.directory.child name ≠ path := by
    intro he
    rw [he, Path.same_refl] at hn
    exact absurd hn nofun
  show Snapshot.read _ _ = Snapshot.read _ _
  rw [Snapshot.read_cons_of_ne hne, Snapshot.read_cons_of_ne hne]

/-! ## From the root header -/

/-- The point in front of the first line of a root header. -/
def start (source : Source) : Point := ⟨{}, { symbols := initialSymbols source }⟩

/-- The scan of a root header comes to the point behind its first lines, of which the number is
given. -/
def Reaches (c : Context) (source : Source) (n : Nat) (p : Point) : Prop :=
  readLines c [source.path] ⟨source, true⟩ (source.numberedLines.take n) (start source) = .ok p

theorem scanSource_eq (c : Context) (source : Source) :
    scanSource c source =
      (readLines c [source.path] ⟨source, true⟩ source.numberedLines (start source)).bind
        (closeFile ⟨source, true⟩) := scanLines_eq _ _ _

/-! ## Symbols at other locations -/

section Relocate

variable {g : Location → Location}

theorem evaluate_relocate (s : Symbols) (name : String) (l : Location) :
    evaluate (s.relocate g) name (g l) =
      ((evaluate s name l).1, (evaluate s name l).2.relocate g) := by
  unfold evaluate
  cases Numeral.parse? name with
  | some _ => rfl
  | none =>
    simp only [Symbols.lookup_relocate]
    cases s.lookup name <;> rfl

theorem initialSymbols_relocate {source source' : Source}
    (hp : source.path = source'.path) (hg : g (.whole source) = g (.whole source')) :
    (initialSymbols source).relocate g = (initialSymbols source').relocate g := by
  unfold initialSymbols
  rw [hp]
  split
  · rw [← Symbols.defineSynthetic_relocate, ← Symbols.defineSynthetic_relocate, hg]
  · rfl

end Relocate

end BoardLint.Scan
