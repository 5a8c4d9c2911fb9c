import BoardLint.Proofs.Scan.Lines

/-!
# What runs keep

What a line does to the state is known from `step`, and all else that happens is a descent into
headers whose lines are read in the same way. So a relation between states that goes on from one
line to the next is kept by whole headers with all that they include, if each of their lines
respects it (`Respected`, `includes_respect`). Between the lines of a root header, what holds is
shown by induction on the number of lines that have been read (`Reaches.induction`).
-/

namespace BoardLint.Scan

variable {c : Context} {chain : List Path} {header : Header} {root : Path}
  {H : Header → Prop} {R : State → State → Prop}

/-- The state that a line leads to. -/
def Step.state : Step → State
  | next _ s | descend _ _ s | stop _ s => s

/-- What is remembered behind a line, if any line follows. -/
def Step.frame? : Step → Option Frame
  | next f _ | descend _ f _ => some f
  | stop .. => none

/-- A directive that works in active branches only does nothing in others. -/
theorem Step.of_active {P : Step → Prop} {frame : Frame} {s : State} {r : Step}
    (hnext : P (.next frame s)) (hr : frame.branches.isActive = true → P r) :
    P (if frame.branches.isActive then r else .next frame s) := by
  split
  · rename_i ha
    exact hr ha
  · exact hnext

/-- The state in which a scan ends or breaks off. -/
def left : Except Halt State → State
  | .ok s => s
  | .error halt => halt.state

/-! ## Relations that lines respect -/

/-- A relation between states that is respected by each line of these headers, and where a header
cannot be read that the line includes. -/
structure Respected (c : Context) (H : Header → Prop) (R : State → State → Prop) : Prop where
  refl : ∀ s, R s s
  trans : ∀ {s s' s''}, R s s' → R s' s'' → R s s''
  step : ∀ {header n text}, H header → (n, text) ∈ header.source.numberedLines →
    ∀ frame s, R s (step c.expected header n text frame s).state
  unreadable : ∀ {header n text}, H header → (n, text) ∈ header.source.numberedLines →
    ∀ path reason s, R s (s.report (.error (.unreadable path reason) (.atLine header.source n)))

/-- These headers are all those that a descent may enter while the header at this path is open. -/
def Covers (c : Context) (root : Path) (H : Header → Prop) : Prop :=
  ∀ name text, c.disk.read (c.directory.child name) = .ok text →
    root.same (c.directory.child name) = false → H ⟨.ofText (c.directory.child name) text, false⟩

/-- Whatever headers these lines include, the relation is respected. -/
def IncludesRespect (c : Context) (chain : List Path) (l : Location) (R : State → State → Prop) :
    Prop :=
  ∀ name s, R s (left (enterFile c chain l name s))

/-- A line respects a relation if what it does itself respects it, and the header that it enters. -/
theorem readLine_respects (htrans : ∀ {s s' s''}, R s s' → R s' s'' → R s s'') {p : Point}
    {line : UInt32 × String}
    (hstep : R p.state (step c.expected header line.1 line.2 p.frame p.state).state)
    (henter : ∀ name frame s,
      step c.expected header line.1 line.2 p.frame p.state = .descend name frame s →
        R s (left (enterFile c chain (.atLine header.source line.1) name s))) :
    R p.state (left ((readLine c chain header p line).map Point.state)) := by
  unfold readLine
  cases hs : step c.expected header line.1 line.2 p.frame p.state with
  | next frame s =>
    rw [hs] at hstep
    exact hstep
  | stop cause s =>
    rw [hs] at hstep
    exact hstep
  | descend name frame s =>
    rw [hs] at hstep
    have hline := htrans hstep (henter name frame s hs)
    dsimp only
    cases he : enterFile c chain (.atLine header.source line.1) name s with
    | ok s' =>
      rw [he] at hline
      exact hline
    | error halt =>
      rw [he] at hline
      exact hline

/-- So it leads to a related state, if any line follows. -/
theorem respects_of_readLine (htrans : ∀ {s s' s''}, R s s' → R s' s'' → R s s'') {p q : Point}
    {line : UInt32 × String}
    (hstep : R p.state (step c.expected header line.1 line.2 p.frame p.state).state)
    (hincludes : IncludesRespect c chain (.atLine header.source line.1) R)
    (hq : readLine c chain header p line = .ok q) : R p.state q.state := by
  have hline := readLine_respects (R := R) htrans hstep fun name _ s _ => hincludes name s
  rw [hq] at hline
  exact hline

theorem readLines_singleton (line : UInt32 × String) (p : Point) :
    readLines c chain header [line] p = readLine c chain header p line := by
  rw [readLines_cons]
  cases readLine c chain header p line <;> rfl

/-- Lines respect a relation if each of them does, from where those before it lead to. -/
theorem readLines_respects (hrefl : ∀ s, R s s)
    (htrans : ∀ {s s' s''}, R s s' → R s' s'' → R s s'') {lines : List (UInt32 × String)}
    {p : Point}
    (h : ∀ n line q, lines[n]? = some line → readLines c chain header (lines.take n) p = .ok q →
      R q.state (left ((readLine c chain header q line).map Point.state))) :
    R p.state (left ((readLines c chain header lines p).map Point.state)) := by
  induction lines generalizing p with
  | nil => exact hrefl p.state
  | cons line lines ih =>
    have hline := h 0 line p rfl rfl
    rw [readLines_cons]
    cases hr : readLine c chain header p line with
    | error halt =>
      rw [hr] at hline
      exact hline
    | ok p' =>
      rw [hr] at hline
      refine htrans hline (ih fun n line' q hn hq => h (n + 1) line' q hn ?_)
      rw [List.take_succ_cons, readLines_cons, hr]
      exact hq

theorem left_closeFile (header : Header) (r : Except Halt Point) :
    left (r.bind (closeFile header)) = left (r.map Point.state) := by
  cases r with
  | error halt => rfl
  | ok p =>
    show left (closeFile header p) = p.state
    unfold closeFile
    split <;> rfl

/-- To enter a header respects a relation if its lines do, and the report if it cannot be read. -/
theorem enterFile_respects (hrefl : ∀ s, R s s) {l : Location} {name : FileName} {s : State}
    (hunreadable : ∀ path reason, R s (s.report (.error (.unreadable path reason) l)))
    (h : ∀ text, c.disk.read (c.directory.child name) = .ok text →
      ¬ isOpen chain (c.directory.child name) = true →
      R s (left (scanLines c (chain ++ [c.directory.child name])
        ⟨.ofText (c.directory.child name) text, false⟩
        (Source.ofText (c.directory.child name) text).numberedLines {} s))) :
    R s (left (enterFile c chain l name s)) := by
  by_cases hopen : isOpen chain (c.directory.child name) = true
  · rw [enterFile_of_open hopen]
    exact hrefl s
  · cases hread : c.disk.read (c.directory.child name) with
    | error reason =>
      rw [enterFile_of_unreadable hopen hread]
      exact hunreadable _ reason
    | ok text =>
      rw [enterFile_of_text hopen hread]
      exact h text hread hopen

theorem same_eq_false_of_not_isOpen {target : Path} (hroot : root ∈ chain)
    (h : ¬ isOpen chain target = true) : root.same target = false := by
  rw [isOpen, Bool.not_eq_true, List.any_eq_false] at h
  exact Bool.not_eq_true _ ▸ h root hroot

/-- Headers are read one inside the other, and still each of their lines only does what it does. -/
theorem includes_respect (hR : Respected c H R) (hH : Covers c root H) (chain : List Path) :
    root ∈ chain → ∀ l,
      (∀ path reason s, R s (s.report (.error (.unreadable path reason) l))) →
      IncludesRespect c chain l R := by
  induction chain using descent_induction (c := c) with
  | h chain ih =>
    intro hroot l hunreadable name s
    -- the lines of a header that is entered are read with the longer chain
    refine enterFile_respects hR.refl (hunreadable · · s) fun text hread hopen => ?_
    have htarget := hH name text hread (same_eq_false_of_not_isOpen hroot hopen)
    rw [scanLines_eq, left_closeFile]
    refine readLines_respects hR.refl hR.trans (p := ⟨{}, s⟩) fun n line p hline _ => ?_
    have htext : (line.1, line.2) ∈ _ := List.mem_of_getElem? hline
    refine readLine_respects (R := R) hR.trans (hR.step htarget htext p.frame p.state)
      fun name' _ s' _ => ?_
    exact ih name text hread hopen (List.mem_append_left _ hroot) _ (hR.unreadable htarget htext)
      name' s'

/-! ## From the start of a root header -/

variable {source : Source} {n : Nat} {p q : Point} {text : String}

theorem Reaches.unique (hp : Reaches c source n p) (hq : Reaches c source n q) : p = q :=
  Except.ok.inj (Eq.trans (Eq.symm hp) hq)

theorem reaches_zero_iff : Reaches c source 0 p ↔ p = start source := by
  constructor
  · intro h
    exact (Except.ok.inj h).symm
  · rintro rfl
    rfl

/-- The next line is read from where the lines before it lead to. -/
theorem reaches_succ_iff (ht : source.lines[n]? = some text) :
    Reaches c source (n + 1) q ↔ ∃ p, Reaches c source n p ∧
      readLine c [source.path] ⟨source, true⟩ p (Source.lineNumber n, text) = .ok q := by
  have hline : source.numberedLines[n]? = some (Source.lineNumber n, text) := by
    rw [Source.getElem?_numberedLines, ht, Option.map_some]
  unfold Reaches
  rw [List.take_add_one, hline, Option.toList_some, readLines_append, bind_eq_ok_iff]
  simp only [readLines_singleton]

theorem frame?_of_readLine {line : UInt32 × String} (h : readLine c chain header p line = .ok q) :
    (step c.expected header line.1 line.2 p.frame p.state).frame? = some q.frame := by
  unfold readLine at h
  cases hs : step c.expected header line.1 line.2 p.frame p.state with
  | next frame s =>
    rw [hs] at h
    exact congrArg some (congrArg Point.frame (Except.ok.inj h))
  | stop cause s =>
    rw [hs] at h
    exact absurd h nofun
  | descend name frame s =>
    rw [hs] at h
    obtain ⟨s', -, rfl⟩ := map_eq_ok_iff.1 h
    rfl

/-- What holds in front of the first line, and is kept by each line, holds in front of all lines. -/
theorem Reaches.induction {P : Nat → Point → Prop} (zero : P 0 (start source))
    (succ : ∀ n text p q, source.lines[n]? = some text → Reaches c source n p → P n p →
      readLine c [source.path] ⟨source, true⟩ p (Source.lineNumber n, text) = .ok q → P (n + 1) q)
    (hn : n ≤ source.lines.length) (h : Reaches c source n p) : P n p := by
  induction n generalizing p with
  | zero =>
    obtain rfl := reaches_zero_iff.1 h
    exact zero
  | succ n ih =>
    obtain ⟨text, ht⟩ : ∃ text, source.lines[n]? = some text :=
      ⟨_, List.getElem?_eq_getElem hn⟩
    obtain ⟨p', hp', hread⟩ := (reaches_succ_iff ht).1 h
    exact succ n text p' p ht hp' (ih (Nat.le_of_succ_le hn) hp') hread

/-- The scan has been in front of all lines before. -/
theorem Reaches.of_le {m : Nat} (hm : m ≤ n) (h : Reaches c source n p) :
    ∃ q, Reaches c source m q := by
  obtain ⟨k, rfl⟩ := Nat.exists_eq_add_of_le hm
  rw [Reaches, List.take_add, readLines_append, bind_eq_ok_iff] at h
  obtain ⟨q, hq, -⟩ := h
  exact ⟨q, hq⟩

/-- A scan that ends has come to the end of the root header. -/
theorem reaches_of_scanSource {s : State} (h : scanSource c source = .ok s) :
    ∃ p, Reaches c source source.lines.length p ∧ s = p.state := by
  rw [scanSource_eq, bind_eq_ok_iff] at h
  obtain ⟨p, hp, hclose⟩ := h
  refine ⟨p, ?_, (closeFile_eq_ok hclose).2⟩
  rw [Reaches, ← source.length_numberedLines, List.take_length, hp]

/-- A scan that ends gives what its root header leads to. -/
theorem scanSource_of_scan {disk : Disk} {path : Path} {board : Board} {found : Findings Issue}
    (h : scan disk path = .ok (board, found)) :
    scanSource (.ofPath disk path) board.source = .ok ⟨board.symbols, board.markers, found⟩ := by
  unfold scan at h
  split at h
  · exact absurd h nofun
  · obtain ⟨s, hs, hresult⟩ := map_eq_ok_iff.1 h
    obtain ⟨rfl, rfl⟩ := Prod.mk.inj hresult
    exact hs

end BoardLint.Scan
