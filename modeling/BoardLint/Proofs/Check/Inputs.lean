import BoardLint.Check
import BoardLint.Proofs.Path.Directory
import BoardLint.Proofs.Scan.Descent

/-!
# What a check reads

A scan reads its root header and those headers that its active includes name (`Reads`), and gives
the same on every disk that has the same texts there (`scan_congr`). Whatever an include says,
such a header is an entry of the directory of the root header, with a name that ends in `.h`. Of all
other files a check reads one only, the schema of the chip.
-/

namespace BoardLint

namespace Scan

variable {c c' : Context}

/-! ## The headers that a scan reads -/

/-- The header that an include names has a name that ends in `.h`. -/
theorem endsWith_of_includedName? {path : String} {name : FileName}
    (h : includedName? path = some name) : Text.endsWith ".h" name.text = true := by
  unfold includedName? at h
  split at h
  · rename_i hpath
    obtain ⟨a, ha⟩ := Text.endsWith_iff.1 hpath.1
    obtain ⟨start, hstart⟩ := Path.exists_append_of_fileName? (p := ⟨path⟩) ha.symm
      (by decide) (by decide) h
    exact Text.endsWith_iff.2 ⟨start, hstart.symm⟩
  · exact absurd h nofun

theorem Visit.Asks.endsWith {v : Visit} {n : Nat} {name : FileName} {p : Point}
    (h : v.Asks c n name p) : Text.endsWith ".h" name.text = true := by
  obtain ⟨line, -, path, -, hname⟩ := h.includes
  exact endsWith_of_includedName? hname

/-- At this visit, or below it, an active include makes the scan read the file at this path. -/
def Visit.Reads (c : Context) (v : Visit) (q : Path) : Prop :=
  ∃ w n name p, Relation.ReflTransGen (Descends c) v w ∧ w.Asks c n name p ∧
    ¬ isOpen w.chain (c.directory.child name) = true ∧ q = c.directory.child name

theorem Visit.Reads.below {v w : Visit} {q : Path} (hd : Descends c v w) (h : w.Reads c q) :
    v.Reads c q := by
  obtain ⟨u, n, name, p, hu, hasks⟩ := h
  exact ⟨u, n, name, p, .head hd hu, hasks⟩

/-- Two ways to treat elements give the same if they do so wherever the first one leads. -/
theorem foldlM_congr_along {α β ε : Type} {f g : β → α → Except ε β} {as : List α} {b : β}
    (h : ∀ n a q, as[n]? = some a → (as.take n).foldlM f b = .ok q → g q a = f q a) :
    as.foldlM g b = as.foldlM f b := by
  induction as generalizing b with
  | nil => rfl
  | cons a as ih =>
    have ha : g b a = f b a := h 0 a b rfl rfl
    rw [List.foldlM_cons, List.foldlM_cons, ha]
    cases hf : f b a with
    | error e => rfl
    | ok q =>
      refine ih fun n a' q' ha' hq' => h (n + 1) a' q' ha' ?_
      rw [List.take_succ_cons, List.foldlM_cons, hf]
      exact hq'

/-- Two contexts that differ in their disks only. -/
structure SameQuestions (c c' : Context) : Prop where
  directory : c'.directory = c.directory
  expected : c'.expected = c.expected

theorem enterFile_congr {chain : List Path} {name : FileName} {s : State}
    (hq : SameQuestions c c')
    (hread : ¬ isOpen chain (c.directory.child name) = true →
      c'.disk.read (c.directory.child name) = c.disk.read (c.directory.child name))
    (hlines : ∀ text, ¬ isOpen chain (c.directory.child name) = true →
      c.disk.read (c.directory.child name) = .ok text →
      let source := Source.ofText (c.directory.child name) text
      scanLines c' (chain ++ [c.directory.child name]) ⟨source, false⟩ source.numberedLines {} s =
        scanLines c (chain ++ [c.directory.child name]) ⟨source, false⟩ source.numberedLines {} s)
    (l : Location) : enterFile c' chain l name s = enterFile c chain l name s := by
  by_cases hopen : isOpen chain (c.directory.child name) = true
  · rw [enterFile_of_open hopen, enterFile_of_open (by rwa [hq.directory]), hq.directory]
  have hopen' : ¬ isOpen chain (c'.directory.child name) = true := by rwa [hq.directory]
  cases hr : c.disk.read (c.directory.child name) with
  | error reason =>
    have hr' : c'.disk.read (c'.directory.child name) = .error reason := by
      rw [hq.directory, hread hopen, hr]
    rw [enterFile_of_unreadable hopen hr, enterFile_of_unreadable hopen' hr', hq.directory]
  | ok text =>
    have hr' : c'.disk.read (c'.directory.child name) = .ok text := by
      rw [hq.directory, hread hopen, hr]
    rw [enterFile_of_text hopen hr, enterFile_of_text hopen' hr', hq.directory]
    exact hlines text hopen hr

/-- A visit comes to the same on every disk that has the same texts where it reads. -/
theorem Visit.result_congr (hq : SameQuestions c c') {v : Visit}
    (h : ∀ q, v.Reads c q → c'.disk.read q = c.disk.read q) : v.result c' = v.result c := by
  induction v using Visit.induction (c := c) with
  | h v ih =>
    have hlines : readLines c' v.chain v.header v.header.source.numberedLines ⟨{}, v.state⟩ =
        readLines c v.chain v.header v.header.source.numberedLines ⟨{}, v.state⟩ := by
      refine foldlM_congr_along fun n line p hline hp => ?_
      rw [Source.getElem?_numberedLines, Option.map_eq_some_iff] at hline
      obtain ⟨line, hline, rfl⟩ := hline
      unfold readLine
      rw [hq.expected]
      cases hs : step c.expected v.header (Source.lineNumber n) line p.frame p.state with
      | next frame s => rfl
      | stop cause s => rfl
      | descend name frame s =>
        obtain ⟨hactive, hincludes, rfl, rfl⟩ := step_eq_descend_iff.1 hs
        have hasks : v.Asks c n name p := ⟨hp, hactive, line, hline, hincludes⟩
        refine congrArg (Except.map _) (enterFile_congr hq ?_ ?_ _)
        · exact fun hclosed => h _ ⟨v, n, name, p, .refl, hasks, hclosed, rfl⟩
        · intro text hclosed hread
          have hbelow : Descends c v (v.below c name text p.state) := .intro hasks hclosed hread
          exact ih _ hbelow fun q hread' => h q (hread'.below hbelow)
    rw [Visit.result, Visit.result, scanLines_eq, scanLines_eq, hlines]

/-- The paths that the scan of a root header reads, besides its own. -/
def Reads (disk : Disk) (path : Path) (q : Path) : Prop :=
  ∃ text, disk.read path = .ok text ∧
    (Visit.root (.ofText path text)).Reads (.ofPath disk path) q

/-- Whatever an include says, the scan reads an entry of the directory of the root header, with a
name that ends in `.h`. -/
theorem Reads.exists_child {disk : Disk} {path q : Path} (h : Reads disk path q) :
    ∃ name, Text.endsWith ".h" name.text = true ∧ q = path.directory.child name := by
  obtain ⟨text, -, w, n, name, p, -, hasks, -, rfl⟩ := h
  exact ⟨name, hasks.endsWith, rfl⟩

end Scan

/-- A scan gives the same on every disk that has the same texts where it reads. -/
theorem scan_congr {disk disk' : Disk} {path : Path} (hroot : disk'.read path = disk.read path)
    (h : ∀ q, Scan.Reads disk path q → disk'.read q = disk.read q) :
    scan disk' path = scan disk path := by
  unfold scan
  rw [hroot]
  cases hr : disk.read path with
  | error reason => rfl
  | ok text =>
    have hq : Scan.SameQuestions (.ofPath disk path) (.ofPath disk' path) := ⟨rfl, rfl⟩
    have hresult : Scan.scanSource (.ofPath disk' path) (.ofText path text) =
        Scan.scanSource (.ofPath disk path) (.ofText path text) :=
      Scan.Visit.result_congr hq fun q hread => h q ⟨text, hr, hread⟩
    dsimp only
    rw [hresult]

/-- Two disks that give the same for all that a check may read: the header, the files of its
directory with names that end in `.h`, and the schema of the chip that the header names. -/
structure SameInputs (disk disk' : Disk) (header : Path) (options : Options) : Prop where
  root : disk'.read header = disk.read header
  siblings : ∀ name : FileName, Text.endsWith ".h" name.text = true →
    disk'.read (header.directory.child name) = disk.read (header.directory.child name)
  schema : ∀ board found chip more, scan disk header = .ok (board, found) →
    Audit.identify board = (some chip, more) →
    disk'.read (chip.schemaPath options.sdk) = disk.read (chip.schemaPath options.sdk)

theorem audit_congr {decode : Schema.Document.Reader} {disk disk' : Disk} {options : Options}
    {b : Board} {found : Findings Issue}
    (h : ∀ chip more, Audit.identify b = (some chip, more) →
      disk'.read (chip.schemaPath options.sdk) = disk.read (chip.schemaPath options.sdk)) :
    audit decode disk' options b found = audit decode disk options b found := by
  unfold audit
  rcases hid : Audit.identify b with ⟨_ | chip, more⟩
  · rfl
  · have hload : Schema.load decode disk' (chip.schemaPath options.sdk) =
        Schema.load decode disk (chip.schemaPath options.sdk) := by
      unfold Schema.load
      rw [h chip more hid]
    dsimp only
    rw [hload]

/-- The result of a check depends on what it may read and on nothing else: it is the same on two
disks that agree there. No include leads the scan to any other file, since what it reads besides the
header is one entry below the directory of the header, and the name of this entry ends in `.h`. -/
theorem check_depends_on_inputs {decode : Schema.Document.Reader} {disk disk' : Disk}
    {header : Path} {options : Options} (h : SameInputs disk disk' header options) :
    check decode disk' header options = check decode disk header options ∧
    ∀ q, Scan.Reads disk header q →
      ∃ name, Text.endsWith ".h" name.text = true ∧ q = header.directory.child name ∧
        q.components = header.directory.components ++ [.entry name] := by
  constructor
  · have hscan : scan disk' header = scan disk header := by
      refine scan_congr h.root fun q hq => ?_
      obtain ⟨name, hname, rfl⟩ := hq.exists_child
      exact h.siblings name hname
    unfold check
    rw [hscan]
    cases hs : scan disk header with
    | error halt => rfl
    | ok result =>
      obtain ⟨board, found⟩ := result
      dsimp only
      rw [audit_congr fun chip more => h.schema board found chip more hs]
  · intro q hq
    obtain ⟨name, hname, rfl⟩ := hq.exists_child
    exact ⟨name, hname, rfl, Path.components_child _ _⟩

/-- A header with an include that seems to lead out of its directory. -/
def climbing : Snapshot := [(⟨"boards/a.h"⟩, .ok "#include \"boards/../../b.h\"")]

/-- The same, with a file where the include seems to lead. -/
def climbed : Snapshot := (⟨"boards/../../b.h"⟩, .ok "#define B 1") :: climbing

theorem sameInputs_climbing : SameInputs climbing.disk climbed.disk ⟨"boards/a.h"⟩ {} where
  root := rfl
  siblings name _ := by
    have hne : (Path.mk "boards/a.h").directory.child name ≠ ⟨"boards/../../b.h"⟩ := by
      intro h
      have hlength := congrArg (fun p : Path => p.components.length) h
      simp only [Path.components_child, List.length_append, List.length_singleton] at hlength
      exact absurd hlength (by decide)
    exact Snapshot.read_cons_of_ne hne _ _
  schema _ _ chip _ _ _ := by cases chip <;> rfl

theorem check_does_not_climb :
    SameInputs climbing.disk climbed.disk ⟨"boards/a.h"⟩ {} ∧
      check Schema.Document.ofText climbed.disk ⟨"boards/a.h"⟩ {} =
        check Schema.Document.ofText climbing.disk ⟨"boards/a.h"⟩ {} :=
  ⟨sameInputs_climbing, (check_depends_on_inputs sameInputs_climbing).1⟩

end BoardLint
