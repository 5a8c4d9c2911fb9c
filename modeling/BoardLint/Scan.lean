import BoardLint.Disk
import BoardLint.Scan.Step

/-!
# Scanning a header

A scan reads a header line by line and descends into the headers that it includes, all of which lie
in the directory of the root header. It ends early at an error after which nothing more could be
said: conditionals that do not match, or a header that includes itself.

The descent ends since every header that is entered takes one name out of those in the directory
that could still be entered.
-/

namespace BoardLint.Scan

/-- What does not change during a scan. -/
structure Context where
  disk : Disk
  /-- The directory of the root header. -/
  directory : Path
  /-- The names that the path of the root header asks for. -/
  expected : ExpectedNames

/-- The context of a scan from this path. -/
def Context.ofPath (disk : Disk) (path : Path) : Context :=
  ⟨disk, path.directory, .ofPath path⟩

/-- A scan that ended early, with what it had read. -/
structure Halt where
  cause : Located Issue
  state : State

/-- Is the header one of those that are being read? -/
def isOpen (chain : List Path) (target : Path) : Bool := chain.any (·.same target)

/-- The number of names that could still be entered. -/
def enterable (c : Context) (chain : List Path) : Nat :=
  ((c.disk.listing c.directory).filter fun name => !isOpen chain (c.directory.child name)).length

/-- A header that is entered could have been entered. -/
theorem enterable_append_lt {c : Context} {chain : List Path} {name : FileName} {text : String}
    (hf : c.disk.read (c.directory.child name) = .ok text)
    (hn : ¬ isOpen chain (c.directory.child name) = true) :
    enterable c (chain ++ [c.directory.child name]) < enterable c chain :=
  length_filter_lt (by simp +contextual [isOpen]) (c.disk.mem_listing hf) (by simpa using hn)
    (by simp [isOpen])

/-- The rest of a header, given the numbered lines that follow. The chain holds the paths of the
headers that are being read, from the root header to this one. -/
def scanLines (c : Context) (chain : List Path) (header : Header) (lines : List (UInt32 × String))
    (frame : Frame) (state : State) : Except Halt State :=
  match lines with
  | [] =>
    match frame.branches.finish with
    | .ok () => .ok state
    | .error e => .error ⟨⟨.nesting e, .whole header.source⟩, state⟩
  | (n, line) :: rest =>
    match step c.expected header n line frame state with
    | .next frame state => scanLines c chain header rest frame state
    | .stop cause state => .error ⟨⟨cause, .atLine header.source n⟩, state⟩
    | .descend name frame state =>
      let target := c.directory.child name
      if _new : isOpen chain target then
        .error ⟨⟨.includeCycle (chain ++ [target]), .atLine header.source n⟩, state⟩
      else
        match _found : c.disk.read target with
        | .error reason =>
          scanLines c chain header rest frame <|
            state.report (.error (.unreadable target reason) (.atLine header.source n))
        | .ok text =>
          let source := Source.ofText target text
          match scanLines c (chain ++ [target]) ⟨source, false⟩ source.numberedLines {} state with
          | .ok state => scanLines c chain header rest frame state
          | .error halt => .error halt
termination_by (enterable c chain, lines.length)
decreasing_by
  · exact Prod.Lex.right _ (Nat.lt_succ_self _)
  · exact Prod.Lex.right _ (Nat.lt_succ_self _)
  · exact Prod.Lex.left _ _ (enterable_append_lt _found _new)
  · exact Prod.Lex.right _ (Nat.lt_succ_self _)

/-- The symbols that a root header starts with: the development board is one of the second family
without saying so. -/
def initialSymbols (source : Source) : Symbols :=
  if source.path.fileText = fpgaHeader then
    (∅ : Symbols).defineSynthetic "PICO_RP2350" (.int 1) (.whole source)
  else ∅

/-- Reads a root header with all that it includes. -/
def scanSource (c : Context) (source : Source) : Except Halt State :=
  scanLines c [source.path] ⟨source, true⟩ source.numberedLines {}
    { symbols := initialSymbols source }

end Scan

/-- Reads the header at a path, and gives its board with what was found. -/
def scan (disk : Disk) (path : Path) : Except Scan.Halt (Board × Findings Issue) :=
  match disk.read path with
  | .error reason => .error ⟨⟨.unreadable path reason, .whole (.unread path)⟩, {}⟩
  | .ok text =>
    let source := Source.ofText path text
    (Scan.scanSource (.ofPath disk path) source).map fun state =>
      (⟨source, state.symbols, .ofPath path, state.markers⟩, state.findings)

end BoardLint
