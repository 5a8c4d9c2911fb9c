import BoardLint.Proofs.Scan.Tracks

/-!
# Includes and the lines that they stand for

For the symbols it makes no difference whether a header is included or its lines stand in the place
of the include (`scan_inlined`). An included header closes all the conditionals that it opens, and
so the two runs meet again behind it (`include_tracks`).
-/

namespace BoardLint.Scan

variable {c c' : Context} {chain chain' : List Path} {header header' : Header} {p p' : Point}

/-! ## One include -/

theorem map_bind {α β γ : Type} (r : Except Halt α) (f : α → Except Halt β) (g : β → γ) :
    (r.bind f).map g = r.bind fun a => (f a).map g := by
  cases r <;> rfl

theorem step_of_include {expected : ExpectedNames} {n : UInt32} {line path : String}
    {name : FileName} (hline : Directive.classify line = .includeFile path)
    (hname : includedName? path = some name) (ha : p.frame.branches.isActive = true) :
    step expected header n line p.frame p.state = .descend name p.frame (p.state.report ∅) := by
  simp only [step, hline, perform, ha, if_true, includeFile, hname]
  rfl

/-- An active include reads the lines of the included header and closes it. -/
theorem readLine_of_include {line path text : String} {name : FileName}
    (hline : Directive.classify line = .includeFile path)
    (hname : includedName? path = some name)
    (hfile : c.disk.read (c.directory.child name) = .ok text)
    (ho : ¬ isOpen chain (c.directory.child name) = true)
    (ha : p.frame.branches.isActive = true) (n : UInt32) :
    readLine c chain header p (n, line) =
      (readLines c (chain ++ [c.directory.child name])
        ⟨.ofText (c.directory.child name) text, false⟩
        (Source.ofText (c.directory.child name) text).numberedLines
        ⟨{}, p.state.report ∅⟩).bind fun q =>
          (closeFile ⟨.ofText (c.directory.child name) text, false⟩ q).map fun s =>
            ⟨p.frame, s⟩ := by
  unfold readLine
  simp only [step_of_include hline hname ha, enterFile_of_text ho hfile, scanLines_eq, map_bind]

/-- The lines of a header, in the place of an active include of it. -/
theorem include_tracks (hb : Below c c' chain chain') {line path text : String} {name : FileName}
    (hline : Directive.classify line = .includeFile path)
    (hname : includedName? path = some name)
    (hfile : c.disk.read (c.directory.child name) = .ok text)
    (ha : p.frame.branches.isActive = true) (h : Tracks .none p p') (n : UInt32) (i : Nat)
    (header header' : Header) :
    Follows (Tracks .none) (readLine c chain header p (n, line))
      (readLines c' chain' header' (Source.numberFrom i (Text.lines text)) p') := by
  by_cases ho : isOpen chain (c.directory.child name) = true
  · unfold readLine
    simp only [step_of_include hline hname ha, enterFile_of_open ho]
    exact .error
  -- the conditionals around the include are those around the lines that stand for it
  have hstart : Tracks p.frame.branches ⟨{}, p.state.report ∅⟩ p' := by
    refine ⟨?_, h.symbols⟩
    rw [h.branches, Branches.within_none, Branches.none_within]
  have htexts : (Source.ofText (c.directory.child name) text).numberedLines.map Prod.snd =
      (Source.numberFrom i (Text.lines text)).map Prod.snd := by
    rw [Source.numberedLines, Source.map_snd_numberFrom, Source.map_snd_numberFrom]
    rfl
  have hbody := readLines_tracks (hb.append_left (c.directory.child name)) ha htexts hstart
    ⟨.ofText (c.directory.child name) text, false⟩ header'
  rw [readLine_of_include hline hname hfile ho ha]
  refine Follows.bind_left hbody fun q q' hq => ?_
  cases hc : closeFile ⟨.ofText (c.directory.child name) text, false⟩ q with
  | error halt => exact .error
  | ok s =>
    obtain ⟨hnone, rfl⟩ := closeFile_eq_ok hc
    refine .ok ⟨?_, hq.symbols⟩
    rw [hq.branches, hnone, Branches.none_within, Branches.within_none]

/-! ## Root headers -/

/-- An include line of a root header at which its scan arrives in an active branch, and which names
a header that can be read. -/
structure ActiveInclude (c : Context) (source : Source) where
  before : List String
  line : String
  after : List String
  lines_eq : source.lines = before ++ line :: after
  path : String
  classify_line : Directive.classify line = .includeFile path
  name : FileName
  included : includedName? path = some name
  text : String
  readable : c.disk.read (c.directory.child name) = .ok text
  point : Point
  reached : Reaches c source before.length point
  active : point.frame.branches.isActive = true

namespace ActiveInclude

variable {source : Source}

/-- The root header with the lines of the included one in the place of the include. -/
def inlined (i : ActiveInclude c source) : Source :=
  ⟨source.path, i.before ++ Text.lines i.text ++ i.after⟩

theorem numberedLines_eq (i : ActiveInclude c source) :
    source.numberedLines = Source.numberFrom 0 i.before ++
      (Source.lineNumber i.before.length, i.line) ::
        Source.numberFrom (i.before.length + 1) i.after := by
  rw [Source.numberedLines, i.lines_eq, Source.numberFrom_append, Source.numberFrom, Nat.zero_add]

theorem numberedLines_inlined (i : ActiveInclude c source) :
    i.inlined.numberedLines = Source.numberFrom 0 i.before ++
      (Source.numberFrom i.before.length (Text.lines i.text) ++
        Source.numberFrom (i.before.length + (Text.lines i.text).length) i.after) := by
  rw [Source.numberedLines, inlined, List.append_assoc, Source.numberFrom_append,
    Source.numberFrom_append, Nat.zero_add]

theorem readLines_before (i : ActiveInclude c source) :
    readLines c [source.path] ⟨source, true⟩ (Source.numberFrom 0 i.before) (start source) =
      .ok i.point := by
  have h := i.reached
  rw [Reaches, i.numberedLines_eq, List.take_left' (Source.length_numberFrom 0 i.before)] at h
  exact h

/-- The scan goes on from the include. -/
theorem scanSource_eq (i : ActiveInclude c source) :
    scanSource c source =
      ((readLine c [source.path] ⟨source, true⟩ i.point
        (Source.lineNumber i.before.length, i.line)).bind
        (readLines c [source.path] ⟨source, true⟩
          (Source.numberFrom (i.before.length + 1) i.after))).bind
            (closeFile ⟨source, true⟩) := by
  rw [Scan.scanSource_eq, i.numberedLines_eq, readLines_append, i.readLines_before]
  rfl

/-- The scan of the root header is followed by the one of the header without the include. -/
theorem scanSource_follows (i : ActiveInclude c source)
    (hb : Below c c' [source.path] [source.path]) :
    Follows SameSymbols (scanSource c source) (scanSource c' i.inlined) := by
  have hstart : Tracks .none (start source) (start i.inlined) :=
    ⟨rfl, initialSymbols_relocate rfl rfl⟩
  obtain ⟨p', hp', htracks⟩ := readLines_tracks hb rfl rfl hstart ⟨source, true⟩ ⟨i.inlined, true⟩
    i.point i.readLines_before
  have hinclude := include_tracks hb i.classify_line i.included i.readable i.active htracks
    (Source.lineNumber i.before.length) i.before.length ⟨source, true⟩ ⟨i.inlined, true⟩
  have hrest : (Source.numberFrom (i.before.length + 1) i.after).map Prod.snd =
      (Source.numberFrom (i.before.length + (Text.lines i.text).length) i.after).map
        Prod.snd := by
    rw [Source.map_snd_numberFrom, Source.map_snd_numberFrom]
  rw [i.scanSource_eq, Scan.scanSource_eq, i.numberedLines_inlined, readLines_append,
    show i.inlined.path = source.path from rfl, hp']
  show Follows SameSymbols _ ((readLines c' _ _ (_ ++ _) p').bind _)
  rw [readLines_append]
  have hlines := hinclude.bind fun q q' hq =>
    readLines_tracks hb rfl hrest hq ⟨source, true⟩ ⟨i.inlined, true⟩
  exact hlines.bind fun _ _ hq => closeFile_tracks hq

end ActiveInclude

/-- For the symbols, an include and the lines of the included header are the same: where a scan
meets no fatal error, neither does that of the header with the lines in the place of the include,
and it ends with the same symbols. -/
theorem scan_inlined {disk disk' : Disk} {path : Path} {text text' : String}
    (hr : disk.read path = .ok text) (hr' : disk'.read path = .ok text')
    (hd : SameNeighbours disk disk' path)
    (i : ActiveInclude (.ofPath disk path) (.ofText path text))
    (hi : .ofText path text' = i.inlined) {board : Board} {found : Findings Issue}
    (h : scan disk path = .ok (board, found)) :
    ∃ board' found', scan disk' path = .ok (board', found') ∧
      board'.symbols.content = board.symbols.content := by
  have hb : Below (.ofPath disk path) (.ofPath disk' path) [path] [path] :=
    ⟨fun _ ht => ht, hd.agreeOff⟩
  have hfollows := i.scanSource_follows hb
  rw [scan, hr] at h
  rw [scan, hr']
  dsimp only at h ⊢
  rw [hi]
  cases hs : scanSource (.ofPath disk path) (.ofText path text) with
  | error halt =>
    rw [hs] at h
    exact absurd h nofun
  | ok s =>
    rw [hs] at h
    obtain ⟨s', hs', hsame⟩ := hfollows s hs
    rw [hs']
    refine ⟨_, _, rfl, ?_⟩
    have hboard : s.symbols = board.symbols :=
      congrArg (fun result => result.1.symbols) (Except.ok.inj h)
    show s'.symbols.content = board.symbols.content
    rw [← hboard, ← Symbols.content_bare, ← hsame, Symbols.content_bare]

/-- A root header, next to a header with a conditional of its own. -/
def splitDisk (root : String) : Disk :=
  Snapshot.disk [(⟨"boards/a.h"⟩, .ok root),
    (⟨"boards/b.h"⟩, .ok "#ifndef A\n#define B 1\n#else\n#define B 2\n#endif\n")]

/-- A root header that includes the other one from inside of a conditional. -/
def splitText : String := "#define A 1\n#ifdef A\n#include \"b.h\"\n#endif\n#define C B\n"

/-- The same header, with the lines of the other one. -/
def joinedText : String :=
  "#define A 1\n#ifdef A\n" ++ "#ifndef A\n#define B 1\n#else\n#define B 2\n#endif\n" ++
    "#endif\n#define C B\n"

def splitContext : Context := .ofPath (splitDisk splitText) ⟨"boards/a.h"⟩

def splitSource : Source := .ofText ⟨"boards/a.h"⟩ splitText

/-- The point in front of the include. -/
def splitPoint : Point :=
  (readLines splitContext [splitSource.path] ⟨splitSource, true⟩ (splitSource.numberedLines.take 2)
    (start splitSource)).toOption.getD (start splitSource)

theorem eq_ok_getD {α : Type} {r : Except Halt α} (h : r.toOption.isSome = true) (a : α) :
    r = .ok (r.toOption.getD a) := by
  cases r with
  | ok => rfl
  | error => exact absurd h nofun

/-- The include from inside of a conditional. -/
def splitInclude : ActiveInclude splitContext splitSource where
  before := ["#define A 1", "#ifdef A"]
  line := "#include \"b.h\""
  after := ["#endif", "#define C B"]
  lines_eq := by decide +kernel
  path := "b.h"
  classify_line := by decide +kernel
  name := ⟨"b.h", by decide, by decide⟩
  included := by decide +kernel
  text := "#ifndef A\n#define B 1\n#else\n#define B 2\n#endif\n"
  readable := by
    have hchild : splitContext.directory.child ⟨"b.h", by decide, by decide⟩ = ⟨"boards/b.h"⟩ := by
      decide +kernel
    rw [hchild]
    rfl
  point := splitPoint
  reached := eq_ok_getD (by decide +kernel) (start splitSource)
  active := by decide +kernel

theorem isSome_scanSource_split : (scanSource splitContext splitSource).toOption.isSome = true := by
  rw [splitInclude.scanSource_eq, readLine_of_include splitInclude.classify_line
    splitInclude.included splitInclude.readable (by decide +kernel) splitInclude.active]
  decide +kernel

theorem scan_inlined_split :
    ∃ board found board' found',
      scan (splitDisk splitText) ⟨"boards/a.h"⟩ = .ok (board, found) ∧
      scan (splitDisk joinedText) ⟨"boards/a.h"⟩ = .ok (board', found') ∧
      board'.symbols.content = board.symbols.content := by
  have hr (root : String) : (splitDisk root).read ⟨"boards/a.h"⟩ = .ok root :=
    Snapshot.read_disk_cons_self _ _ _
  obtain ⟨s, hs⟩ : ∃ s, scanSource splitContext splitSource = .ok s :=
    ⟨_, eq_ok_getD isSome_scanSource_split {}⟩
  have h : scan (splitDisk splitText) ⟨"boards/a.h"⟩ =
      .ok (⟨splitSource, s.symbols, .ofPath ⟨"boards/a.h"⟩, s.markers⟩, s.findings) := by
    rw [scan, hr]
    exact congrArg (Except.map _) hs
  obtain ⟨board', found', h', hc⟩ := scan_inlined (hr splitText) (hr joinedText)
    (sameNeighbours_snapshot _ _ _ _) splitInclude (by decide +kernel) h
  exact ⟨_, _, board', found', h, h', hc⟩

end BoardLint.Scan
