import BoardLint.Proofs.Disk.Named
import BoardLint.Proofs.Scan.Descent
import Mathlib.Data.Finset.Card

/-!
# Include cycles

The headers that are open at one time are different files of one directory (`Chain`), so there are
never more of them than this directory has files that can be read. A scan with this limit on its
depth, which is a recursion on the depth and needs no measure, is the scan itself
(`scanWithin_eq`). A cycle is reported where an active include names one of the open headers, and
nowhere else.
-/

namespace BoardLint.Scan

variable {c : Context} {chain : List Path} {name : FileName} {text : String}

/-! ## The open headers -/

/-- The headers that may be open at one time: no two paths are equal, and each is the path of a file
in the directory. -/
structure Chain (c : Context) (chain : List Path) : Prop where
  distinct : chain.Pairwise fun p q => p.same q = false
  near : ∀ p ∈ chain, ∃ name ∈ c.disk.readable c.directory,
    p.same (c.directory.child name) = true ∧
      c.disk.read p = c.disk.read (c.directory.child name)

namespace Chain

theorem append (h : Chain c chain) (hclosed : ¬ isOpen chain (c.directory.child name) = true)
    (hread : c.disk.read (c.directory.child name) = .ok text) :
    Chain c (chain ++ [c.directory.child name]) where
  distinct := by
    refine List.pairwise_append.2 ⟨h.distinct, List.pairwise_singleton _ _, fun p hp q hq => ?_⟩
    rw [List.mem_singleton.1 hq, ← Bool.not_eq_true]
    exact fun hsame => hclosed (List.any_eq_true.2 ⟨p, hp, hsame⟩)
  near p hp := by
    rcases List.mem_append.1 hp with hp | hp
    · exact h.near p hp
    · rw [List.mem_singleton.1 hp]
      exact ⟨name, Disk.mem_readable_iff.2 ⟨text, hread⟩, Path.same_refl _, rfl⟩

/-- Two open headers have different names. -/
theorem nodup_fileNames (h : Chain c chain) : (chain.map Path.fileName?).Nodup := by
  refine List.pairwise_map.2 (h.distinct.imp_of_mem fun {p q} hp hq hdistinct hname => ?_)
  obtain ⟨n, -, hpn, -⟩ := h.near p hp
  obtain ⟨m, -, hqm, -⟩ := h.near q hq
  rw [Path.fileName?_of_same_child hpn, Path.fileName?_of_same_child hqm] at hname
  rw [Option.some.inj hname] at hpn
  rw [Path.same_trans hpn ((Path.same_comm _ _).trans hqm)] at hdistinct
  exact absurd hdistinct nofun

/-- No more headers are open than there are files to read. -/
theorem length_le (h : Chain c chain) :
    chain.length ≤ (c.disk.readable c.directory).card := by
  have hsubset : (chain.map Path.fileName?).toFinset ⊆
      (c.disk.readable c.directory).image some := by
    intro name? hname?
    obtain ⟨p, hp, rfl⟩ := List.mem_map.1 (List.mem_toFinset.1 hname?)
    obtain ⟨name, hname, hsame, -⟩ := h.near p hp
    exact Finset.mem_image.2 ⟨name, hname, (Path.fileName?_of_same_child hsame).symm⟩
  calc chain.length = (chain.map Path.fileName?).toFinset.card := by
        rw [List.toFinset_card_of_nodup h.nodup_fileNames, List.length_map]
    _ ≤ ((c.disk.readable c.directory).image some).card := Finset.card_le_card hsubset
    _ ≤ (c.disk.readable c.directory).card := Finset.card_image_le

/-- A header is open if the file name of an open header is its name. -/
theorem isOpen_iff (h : Chain c chain) :
    isOpen chain (c.directory.child name) = true ↔ ∃ p ∈ chain, p.fileName? = some name := by
  rw [isOpen, List.any_eq_true]
  constructor
  · rintro ⟨p, hp, hsame⟩
    exact ⟨p, hp, Path.fileName?_of_same_child hsame⟩
  · rintro ⟨p, hp, hname⟩
    obtain ⟨n, -, hsame, -⟩ := h.near p hp
    have hn := Path.fileName?_of_same_child hsame
    rw [hname] at hn
    rw [← Option.some.inj hn] at hsame
    exact ⟨p, hp, hsame⟩

end Chain

/-- The root header is a file of its directory, however its path is written. -/
theorem chain_root {disk : Disk} {path : Path} (hd : disk.Named)
    (hr : disk.read path = .ok text) : Chain (.ofPath disk path) [path] where
  distinct := List.pairwise_singleton _ _
  near p hp := by
    obtain ⟨name, hname, hread⟩ := hd hr
    rw [List.mem_singleton.1 hp]
    exact ⟨name, Disk.mem_readable_iff.2 ⟨text, hread⟩, Path.same_child_iff.2 hname,
      hr.trans hread.symm⟩

theorem Descends.keeps_chain {v w : Visit} (h : Descends c v w) (hv : Chain c v.chain) :
    Chain c w.chain := by
  cases h with
  | intro hasks hclosed hread => exact hv.append hclosed hread

/-- Every visit of a scan has such a chain, which starts with the root header. -/
theorem Visited.has_chain {source : Source} {v : Visit} (h : Visited c source v)
    (hroot : Chain c [source.path]) : Chain c v.chain ∧ v.chain.head? = some source.path := by
  induction h with
  | refl => exact ⟨hroot, rfl⟩
  | tail _ hdescends ih =>
    refine ⟨hdescends.keeps_chain ih.1, ?_⟩
    cases hdescends with
    | intro hasks hclosed hread => exact List.mem_head?_append_of_mem_head? ih.2

/-! ## Scans of limited depth -/

/-- What a line does where included headers are read in this way. -/
def readLineBy (c : Context) (read : List Path → Header → State → Except (Option Halt) State)
    (chain : List Path) (header : Header) (p : Point) (line : UInt32 × String) :
    Except (Option Halt) Point :=
  let location := Location.atLine header.source line.1
  match step c.expected header line.1 line.2 p.frame p.state with
  | .next frame state => .ok ⟨frame, state⟩
  | .stop cause state => .error (some ⟨⟨cause, location⟩, state⟩)
  | .descend name frame state =>
    let target := c.directory.child name
    if isOpen chain target then
      .error (some ⟨⟨.includeCycle (chain ++ [target]), location⟩, state⟩)
    else
      match c.disk.read target with
      | .error reason => .ok ⟨frame, state.report (.error (.unreadable target reason) location)⟩
      | .ok text =>
        (read (chain ++ [target]) ⟨.ofText target text, false⟩ state).map fun s => ⟨frame, s⟩

/-- The scan of a header, below which so many headers may be nested, itself included. It gives up
where there would be more of them. -/
def scanWithin (c : Context) : Nat → List Path → Header → State → Except (Option Halt) State
  | 0, _, _, _ => .error none
  | depth + 1, chain, header, state =>
    (header.source.numberedLines.foldlM (readLineBy c (scanWithin c depth) chain header)
      (Point.mk {} state)).bind fun p => (closeFile header p).mapError some

theorem foldlM_mapError {α β ε ε' : Type} {k : ε → ε'} {f : β → α → Except ε β}
    {f' : β → α → Except ε' β} (h : ∀ b a, f' b a = (f b a).mapError k) (as : List α) (b : β) :
    as.foldlM f' b = (as.foldlM f b).mapError k := by
  induction as generalizing b with
  | nil => rfl
  | cons a as ih =>
    rw [List.foldlM_cons, List.foldlM_cons, h]
    cases f b a with
    | error e => rfl
    | ok b' => exact ih b'

/-- A line does the same if what it enters is read in the same way. -/
theorem readLineBy_eq {read : List Path → Header → State → Except (Option Halt) State}
    {header : Header} (h : ∀ name text s, ¬ isOpen chain (c.directory.child name) = true →
      c.disk.read (c.directory.child name) = .ok text →
      let source := Source.ofText (c.directory.child name) text
      read (chain ++ [c.directory.child name]) ⟨source, false⟩ s =
        (scanLines c (chain ++ [c.directory.child name]) ⟨source, false⟩ source.numberedLines {}
          s).mapError some) (p : Point) (line : UInt32 × String) :
    readLineBy c read chain header p line = (readLine c chain header p line).mapError some := by
  unfold readLineBy readLine
  cases step c.expected header line.1 line.2 p.frame p.state with
  | next frame s => rfl
  | stop cause s => rfl
  | descend name frame s =>
    dsimp only
    by_cases hopen : isOpen chain (c.directory.child name) = true
    · rw [if_pos hopen, enterFile_of_open hopen]
      rfl
    · rw [if_neg hopen]
      cases hread : c.disk.read (c.directory.child name) with
      | error reason =>
        rw [enterFile_of_unreadable hopen hread]
        rfl
      | ok text =>
        rw [enterFile_of_text hopen hread]
        dsimp only
        rw [h name text s hopen hread]
        cases scanLines c (chain ++ [c.directory.child name]) _ _ {} s <;> rfl

/-- A limit that leaves room for all files is never met. -/
theorem scanWithin_eq {depth : Nat} {header : Header} {s : State} (hc : Chain c chain)
    (h : (c.disk.readable c.directory).card < chain.length + depth) :
    scanWithin c depth chain header s =
      (scanLines c chain header header.source.numberedLines {} s).mapError some := by
  induction depth generalizing chain header s with
  | zero => exact absurd hc.length_le (Nat.not_le.2 h)
  | succ depth ih =>
    have hline : ∀ p line, readLineBy c (scanWithin c depth) chain header p line =
        (readLine c chain header p line).mapError some :=
      readLineBy_eq fun name text s hclosed hread =>
        ih (hc.append hclosed hread) (by rw [List.length_append, List.length_singleton]; omega)
    rw [scanWithin, foldlM_mapError hline, scanLines_eq, readLines]
    cases header.source.numberedLines.foldlM (readLine c chain header) (Point.mk {} s) with
    | error halt => rfl
    | ok p => rfl

/-! ## Cycles -/

section Cycle

variable {disk : Disk} {path : Path} {l : Location}

theorem halts_cycle_iff {v : Visit} {s : State} :
    v.Halts c ⟨⟨.includeCycle chain, l⟩, s⟩ ↔
      ∃ n name p, v.Asks c n name p ∧ isOpen v.chain (c.directory.child name) = true ∧
        chain = v.chain ++ [c.directory.child name] ∧
          l = .atLine v.header.source (Source.lineNumber n) ∧ s = p.state := by
  constructor
  · intro h
    cases h with
    | cycle hasks hopen => exact ⟨_, _, _, hasks, hopen, rfl, rfl, rfl⟩
  · rintro ⟨n, name, p, hasks, hopen, rfl, rfl, rfl⟩
    exact .cycle hasks hopen

theorem scan_eq_error_iff {halt : Halt} (hr : disk.read path = .ok text) :
    scan disk path = .error halt ↔
      scanSource (.ofPath disk path) (.ofText path text) = .error halt := by
  rw [scan, hr]
  exact map_eq_error_iff

/-- A scan reports a cycle where an active include names a header that is open, and nowhere else. -/
theorem scan_eq_cycle_iff (hd : disk.Named) (hr : disk.read path = .ok text) :
    (∃ s, scan disk path = .error ⟨⟨.includeCycle chain, l⟩, s⟩) ↔
      ∃ v n name p, Visited (.ofPath disk path) (.ofText path text) v ∧
        v.Asks (.ofPath disk path) n name p ∧ (∃ q ∈ v.chain, q.fileName? = some name) ∧
        chain = v.chain ++ [path.directory.child name] ∧
        l = .atLine v.header.source (Source.lineNumber n) := by
  have hroot : Chain (.ofPath disk path) [path] := chain_root hd hr
  simp only [scan_eq_error_iff hr, scanSource_eq_error_iff, halts_cycle_iff]
  constructor
  · rintro ⟨s, v, hv, n, name, p, hasks, hopen, hchain, hl, -⟩
    exact ⟨v, n, name, p, hv, hasks, (hv.has_chain hroot).1.isOpen_iff.1 hopen, hchain, hl⟩
  · rintro ⟨v, n, name, p, hv, hasks, hopen, hchain, hl⟩
    exact ⟨p.state, v, hv, n, name, p, hasks, (hv.has_chain hroot).1.isOpen_iff.2 hopen, hchain,
      hl, rfl⟩

/-- A reported chain closes: all headers in front of the last one are different, and one of them is
the last one. -/
theorem closes_of_scan_eq_cycle {s : State} (hd : disk.Named) (hr : disk.read path = .ok text)
    (h : scan disk path = .error ⟨⟨.includeCycle chain, l⟩, s⟩) :
    ∃ opened last, chain = opened ++ [last] ∧ opened.Pairwise (fun p q => p.same q = false) ∧
      ∃ q ∈ opened, q.same last = true := by
  rw [scan_eq_error_iff hr, scanSource_eq_error_iff] at h
  obtain ⟨v, hv, hhalts⟩ := h
  obtain ⟨n, name, p, -, hopen, rfl, -, -⟩ := halts_cycle_iff.1 hhalts
  exact ⟨v.chain, _, rfl, (hv.has_chain (chain_root hd hr)).1.distinct, List.any_eq_true.1 hopen⟩

/-- Every descent ends, and cycles are caught exactly. A scan whose depth is limited by the number
of files is the scan itself; at every visit the open headers are different files of the directory;
a cycle is reported exactly where an active include names an open header; and the chain that is
reported closes. -/
theorem descent_ends_and_cycles_are_caught (hd : disk.Named) (hr : disk.read path = .ok text) :
    (∀ depth, (disk.readable path.directory).card ≤ depth →
      scanWithin (.ofPath disk path) depth [path] ⟨.ofText path text, true⟩
          (start (.ofText path text)).state =
        (scanSource (.ofPath disk path) (.ofText path text)).mapError some) ∧
    (∀ v, Visited (.ofPath disk path) (.ofText path text) v →
      Chain (.ofPath disk path) v.chain ∧ v.chain.head? = some path ∧
        v.chain.length ≤ (disk.readable path.directory).card) ∧
    (∀ chain l, (∃ s, scan disk path = .error ⟨⟨.includeCycle chain, l⟩, s⟩) ↔
      ∃ v n name p, Visited (.ofPath disk path) (.ofText path text) v ∧
        v.Asks (.ofPath disk path) n name p ∧ (∃ q ∈ v.chain, q.fileName? = some name) ∧
        chain = v.chain ++ [path.directory.child name] ∧
        l = .atLine v.header.source (Source.lineNumber n)) ∧
    (∀ chain l s, scan disk path = .error ⟨⟨.includeCycle chain, l⟩, s⟩ →
      ∃ opened last, chain = opened ++ [last] ∧ opened.Pairwise (fun p q => p.same q = false) ∧
        ∃ q ∈ opened, q.same last = true) := by
  have hroot : Chain (.ofPath disk path) [path] := chain_root hd hr
  refine ⟨fun depth hdepth => ?_, fun v hv => ?_, fun chain l => scan_eq_cycle_iff hd hr,
    fun chain l s => closes_of_scan_eq_cycle hd hr⟩
  · have hroom : (disk.readable path.directory).card < [path].length + depth := by
      rw [List.length_singleton]
      omega
    exact scanWithin_eq hroot hroom
  · obtain ⟨hchain, hhead⟩ := hv.has_chain hroot
    exact ⟨hchain, hhead, hchain.length_le⟩

/-- Two headers that include each other. -/
def circle : Disk :=
  .ofFiles [(⟨"boards/a.h"⟩, "#include \"b.h\""), (⟨"boards/b.h"⟩, "#include \"boards/a.h\"")]

/-- The scan comes back to its root header, whose path was written with two slashes. -/
theorem descent_ends_in_circle :
    circle.Named ∧ ∃ s, scan circle ⟨"boards//a.h"⟩ =
      .error ⟨⟨.includeCycle [⟨"boards//a.h"⟩, ⟨"boards/b.h"⟩, ⟨"boards/a.h"⟩],
        .atLine (.ofText ⟨"boards/b.h"⟩ "#include \"boards/a.h\"") 1⟩, s⟩ := by
  have hnamed : circle.Named := Disk.named_ofFiles (by decide)
  have hr : circle.read ⟨"boards//a.h"⟩ = .ok "#include \"b.h\"" := by decide
  obtain ⟨-, -, hcycle, -⟩ := descent_ends_and_cycles_are_caught hnamed hr
  let a : FileName := ⟨"a.h", by decide, by decide⟩
  let b : FileName := ⟨"b.h", by decide, by decide⟩
  let c : Context := .ofPath circle ⟨"boards//a.h"⟩
  let root : Visit := .root (.ofText ⟨"boards//a.h"⟩ "#include \"b.h\"")
  have hb : root.Asks c 0 b ⟨{}, root.state⟩ :=
    ⟨rfl, rfl, _, rfl, "b.h", by decide +kernel, by decide⟩
  have hread : c.disk.read (c.directory.child b) = .ok "#include \"boards/a.h\"" := by decide
  let inner : Visit := root.below c b "#include \"boards/a.h\"" root.state
  have ha : inner.Asks c 0 a ⟨{}, root.state⟩ :=
    ⟨rfl, rfl, _, rfl, "boards/a.h", by decide +kernel, by decide⟩
  have hvisited : Visited c (.ofText ⟨"boards//a.h"⟩ "#include \"b.h\"") inner :=
    .single (.intro hb (by decide) hread)
  refine ⟨hnamed, (hcycle _ _).2
    ⟨inner, 0, a, _, hvisited, ha, ⟨⟨"boards//a.h"⟩, ?_, by decide⟩, ?_, ?_⟩⟩
  · exact List.mem_cons_self
  · decide +kernel
  · decide +kernel

end Cycle

end BoardLint.Scan
