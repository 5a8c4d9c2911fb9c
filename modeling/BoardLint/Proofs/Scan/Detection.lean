import BoardLint.Proofs.Scan.Marks
import BoardLint.Proofs.Scan.Splice

/-!
# Board-detection defines

A comment announces the board-detection define, and the next active define of the root header is
taken for it, however far below it stands. `detection_of_scan` says which defines these are, without
a word on how a scan goes: the comment counts in inactive branches too, a second one before the
define changes nothing, and neither comments nor defines of included headers matter. From these
defines come the marker and all the errors about board detection, and from nothing else.
-/

namespace BoardLint

/-- Is the issue about a board-detection define? -/
def Issue.aboutDetection : Issue → Bool
  | detectionValue _ | detectionName .. => true
  | _ => false

theorem Issue.aboutMark_of_aboutDetection {i : Issue} (h : i.aboutDetection = true) :
    i.aboutMark = true := by
  unfold aboutDetection at h
  split at h
  · rfl
  · rfl
  · exact absurd h nofun

namespace Scan

/-! ## Errors about board detection -/

/-- The errors about board-detection defines. -/
def detectionErrors (found : Findings Issue) : List (Located Issue) :=
  found.errors.filter (·.cause.aboutDetection)

section Errors

variable {found more : Findings Issue} {l : Location}

@[simp] theorem detectionErrors_empty : detectionErrors ∅ = [] := rfl

@[simp] theorem detectionErrors_append :
    detectionErrors (found ++ more) = detectionErrors found ++ detectionErrors more :=
  List.filter_append ..

theorem detectionErrors_of_all (h : found.All (·.cause.aboutDetection = false)) :
    detectionErrors found = [] :=
  List.filter_eq_nil_iff.2 fun e he => by rw [h.1 e he]; nofun

theorem detectionErrors_beside {s s' : State} (h : Beside s s') :
    detectionErrors s'.findings = detectionErrors s.findings := by
  obtain ⟨f, hf, hall⟩ := h.findings
  have hnone : f.All (·.cause.aboutDetection = false) := hall.imp fun e he =>
    Bool.eq_false_iff.2 fun ht => Bool.eq_false_iff.1 he (Issue.aboutMark_of_aboutDetection ht)
  rw [hf, detectionErrors_append, detectionErrors_of_all hnone, List.append_nil]

theorem detectionErrors_guardFindings (expected : ExpectedNames) (s : Symbols)
    (preceding : Option String) (name : String) (value : Option String) :
    detectionErrors (guardFindings expected s preceding name value l) = [] :=
  detectionErrors_of_all <| all_guardFindings (fun _ => rfl) (fun _ => rfl) (fun _ => rfl)
    (fun _ _ => rfl) expected s preceding name value

end Errors

/-! ## Defines of a root header -/

/-- A define, as a line writes it. Lines are counted from zero. -/
@[ext] structure Written where
  line : Nat
  name : String
  value : Option String

variable {c : Context} {chain : List Path} {source : Source} {header : Header} {n : Nat}
  {k : UInt32} {d : Written} {ds : List Written} {text : String} {p q : Point}

/-- What is wrong with a board-detection define: it has a value, or neither its name nor the one
that the path asks for is an end of the other. -/
def mistakes (expected : ExpectedNames) (source : Source) (d : Written) : List (Located Issue) :=
  let l := Location.atLine source (Source.lineNumber d.line)
  let name := d.name.toList
  let asked := expected.detection.toList
  (if d.value ≠ none then [⟨.detectionValue d.name, l⟩] else []) ++
    if name <:+ asked ∨ asked <:+ name then []
    else [⟨.detectionName d.name expected.detection, l⟩]

/-- An active line of the root header makes this define. -/
structure ActiveDefine (c : Context) (source : Source) (d : Written) : Prop where
  line : ∃ text, source.lines[d.line]? = some text ∧
    Directive.classify text = .define d.name d.value
  active : ∃ p, Reaches c source d.line p ∧ p.frame.branches.isActive = true

/-- The line is the comment that announces the board-detection define. -/
def Announces (source : Source) (n : Nat) : Prop :=
  ∃ text, source.lines[n]? = some text ∧ Directive.classify text = .boardDetection

/-- Above the line is such a comment, active or not, and no active define between them. -/
def Awaited (c : Context) (source : Source) (n : Nat) : Prop :=
  ∃ m < n, Announces source m ∧ ∀ d, ActiveDefine c source d → ¬ (m < d.line ∧ d.line < n)

/-- An active define of the root header that has been announced. -/
structure DetectionDefine (c : Context) (source : Source) (d : Written) : Prop extends
    ActiveDefine c source d where
  awaited : Awaited c source d.line

theorem ActiveDefine.lt_length (h : ActiveDefine c source d) : d.line < source.lines.length := by
  obtain ⟨text, ht, -⟩ := h.line
  exact (List.getElem?_eq_some_iff.1 ht).1

/-- A line makes one define. -/
theorem ActiveDefine.unique {d' : Written} (h : ActiveDefine c source d)
    (h' : ActiveDefine c source d') (hline : d.line = d'.line) : d = d' := by
  obtain ⟨text, ht, hd⟩ := h.line
  obtain ⟨text', ht', hd'⟩ := h'.line
  rw [hline] at ht
  obtain rfl := Option.some.inj (ht.symm.trans ht')
  obtain ⟨hname, hvalue⟩ := Directive.define.inj (hd.symm.trans hd')
  exact Written.ext hline hname hvalue

/-- Whether the line that is read next is an active define can be seen at the point before it. -/
theorem activeDefine_iff (ht : source.lines[n]? = some text) (hp : Reaches c source n p)
    {name : String} {value : Option String} :
    ActiveDefine c source ⟨n, name, value⟩ ↔
      Directive.classify text = .define name value ∧ p.frame.branches.isActive = true := by
  constructor
  · rintro ⟨⟨text', ht', hd⟩, p', hp', ha⟩
    obtain rfl := Option.some.inj (ht.symm.trans ht')
    obtain rfl := hp.unique hp'
    exact ⟨hd, ha⟩
  · rintro ⟨hd, ha⟩
    exact ⟨⟨text, ht, hd⟩, p, hp, ha⟩

/-! ## What is awaited -/

theorem awaited_zero : ¬ Awaited c source 0 := by
  rintro ⟨m, hm, -⟩
  exact Nat.not_lt_zero m hm

/-- Behind a line a define is awaited if the line announces it, or it was awaited before and has not
come. -/
theorem awaited_succ_iff : Awaited c source (n + 1) ↔
    Announces source n ∨
      Awaited c source n ∧ ∀ d, ActiveDefine c source d → d.line ≠ n := by
  constructor
  · rintro ⟨m, hm, hannounced, hnone⟩
    rcases Nat.lt_succ_iff_lt_or_eq.1 hm with hlt | rfl
    · refine .inr ⟨⟨m, hlt, hannounced, fun d hd hbetween => ?_⟩, fun d hd hn => ?_⟩
      · exact hnone d hd ⟨hbetween.1, Nat.lt_succ_of_lt hbetween.2⟩
      · exact hnone d hd ⟨hn ▸ hlt, hn ▸ Nat.lt_succ_self _⟩
    · exact .inl hannounced
  · rintro (hannounced | ⟨⟨m, hm, hannounced, hnone⟩, hnot⟩)
    · refine ⟨n, Nat.lt_succ_self n, hannounced, fun d _ hbetween => ?_⟩
      exact Nat.not_lt_of_le (Nat.le_of_lt_succ hbetween.2) hbetween.1
    · refine ⟨m, Nat.lt_succ_of_lt hm, hannounced, fun d hd hbetween => ?_⟩
      rcases Nat.lt_succ_iff_lt_or_eq.1 hbetween.2 with hlt | heq
      · exact hnone d hd ⟨hbetween.1, hlt⟩
      · exact hnot d hd heq

theorem awaitsBehind_iff (ht : source.lines[n]? = some text) (hp : Reaches c source n p) :
    awaitsBehind ⟨source, true⟩ p.frame (Directive.classify text) = true ↔
      Announces source n ∨
        p.frame.awaitsDetection = true ∧ ∀ d, ActiveDefine c source d → d.line ≠ n := by
  have hannounces : Announces source n ↔ Directive.classify text = .boardDetection := by
    simp [Announces, ht]
  have hdefines : (∀ d, ActiveDefine c source d → d.line ≠ n) ↔ ∀ name value,
      ¬ (Directive.classify text = .define name value ∧ p.frame.branches.isActive = true) := by
    simp only [← activeDefine_iff ht hp]
    constructor
    · exact fun h name value hd => h _ hd rfl
    · rintro h ⟨m, name, value⟩ hd rfl
      exact h name value hd
  rw [hannounces, hdefines]
  cases Directive.classify text <;> simp [awaitsBehind]

/-- What a scan waits for is what is awaited: headers that are included in between neither bring it
about nor put an end to it. -/
theorem awaitsDetection_iff (hn : n ≤ source.lines.length) (h : Reaches c source n p) :
    p.frame.awaitsDetection = true ↔ Awaited c source n := by
  refine Reaches.induction (P := fun n p => p.frame.awaitsDetection = true ↔ Awaited c source n)
    ?_ ?_ hn h
  · exact iff_of_false nofun awaited_zero
  · intro n text p q ht hp ih hq
    rw [(remembers_of_readLine hq).awaitsDetection, awaitsBehind_iff ht hp, ih, awaited_succ_iff]

/-! ## One line -/

/-- Nothing has happened that concerns board detection. -/
structure Undetected (s s' : State) : Prop where
  marker : s'.markers.detection = s.markers.detection
  errors : detectionErrors s'.findings = detectionErrors s.findings

theorem Undetected.refl (s : State) : Undetected s s := ⟨rfl, rfl⟩

theorem Undetected.trans {s s' s'' : State} (h : Undetected s s') (h' : Undetected s' s'') :
    Undetected s s'' := ⟨h'.marker.trans h.marker, h'.errors.trans h.errors⟩

theorem Beside.undetected {s s' : State} (h : Beside s s') : Undetected s s' :=
  ⟨h.detection, detectionErrors_beside h⟩

/-- All errors about a define that is taken for the board-detection define. -/
theorem detectionErrors_detectionFindings (expected : ExpectedNames) (source : Source)
    (d : Written) :
    detectionErrors (detectionFindings expected d.name d.value
      (.atLine source (Source.lineNumber d.line))) = mistakes expected source d := by
  have hmatches : detectionMatches expected d.name = true ↔
      d.name.toList <:+ expected.detection.toList ∨
        expected.detection.toList <:+ d.name.toList := by
    rw [detectionMatches, Bool.or_eq_true, Text.endsWith_iff, Text.endsWith_iff, or_comm]
  unfold detectionFindings mistakes
  rw [detectionErrors_append, detectionErrors, detectionErrors, Findings.errors_errorIf,
    Findings.errors_errorIf]
  simp only [hmatches, ite_not]
  split <;> split <;> rfl

theorem detection_define (expected : ExpectedNames) (header : Header) (n : UInt32) (name : String)
    (value : Option String) (frame : Frame) (s : State) :
    (define expected header n name value frame s).state.markers.detection =
      (s.markers.detection || (header.isRoot && frame.awaitsDetection)) := by
  simp only [define, Step.state]

theorem detectionErrors_define (expected : ExpectedNames) (header : Header) (n : UInt32)
    (name : String) (value : Option String) (frame : Frame) (s : State) :
    detectionErrors (define expected header n name value frame s).state.findings =
      detectionErrors s.findings ++ if header.isRoot && frame.awaitsDetection then
        detectionErrors (detectionFindings expected name value (.atLine header.source n))
      else [] := by
  have hifndef : detectionErrors
      (ifndefFindings (precedingIfndef? frame n) name (.atLine header.source n)) = [] :=
    detectionErrors_of_all (all_ifndefFindings (fun _ _ => rfl) _ name)
  have hsymbols :
      detectionErrors (s.symbols.define name value (.atLine header.source n)).2 = [] :=
    detectionErrors_of_all <| all_report s.symbols (.define name value _) (fun _ _ => rfl)
      fun _ _ _ _ _ _ => ⟨rfl, rfl⟩
  simp only [define, Step.state, detectionErrors_append, hifndef, hsymbols, List.append_nil,
    List.nil_append, apply_ite detectionErrors, detectionErrors_guardFindings,
    detectionErrors_empty, ite_self]

theorem define_undetected (expected : ExpectedNames) (name : String) (value : Option String)
    {frame : Frame} (s : State) (h : (header.isRoot && frame.awaitsDetection) = false) :
    Undetected s (define expected header k name value frame s).state := by
  constructor
  · rw [detection_define, h, Bool.or_false]
  · rw [detectionErrors_define, h, if_neg Bool.false_ne_true, List.append_nil]

/-- A line concerns board detection only as an active define of the root header, and only while one
is awaited. -/
theorem step_undetected (expected : ExpectedNames) {frame : Frame} (s : State)
    (h : frame.branches.isActive = true → ∀ name value,
      Directive.classify text = .define name value →
      (header.isRoot && frame.awaitsDetection) = false) :
    Undetected s (step expected header k text frame s).state := by
  rcases step_cases expected header k text frame s with hbeside | ⟨ha, name, value, hd, hstep⟩
  · exact hbeside.undetected
  · rw [hstep]
    exact (nameFindings_beside frame _ _ s).undetected.trans
      (define_undetected expected name value _ (h ha name value hd))

/-- Included headers do not concern board detection. -/
theorem includes_undetected {root : Path} (hroot : root ∈ chain) (l : Location) :
    IncludesRespect c chain l Undetected := by
  have hR : Respected c (·.isRoot = false) Undetected := by
    refine ⟨.refl, .trans, ?_, ?_⟩
    · rintro header n text hheader - frame s
      exact step_undetected c.expected s fun _ _ _ _ => by rw [hheader, Bool.false_and]
    · rintro header n text - - path reason s
      exact (unreadable_beside path reason _ s).undetected
  exact includes_respect hR (fun _ _ _ _ => rfl) chain hroot l fun path reason s =>
    (unreadable_beside path reason l s).undetected

theorem undetected_of_readLine (ht : source.lines[n]? = some text) (hp : Reaches c source n p)
    (hq : readLine c [source.path] ⟨source, true⟩ p (Source.lineNumber n, text) = .ok q)
    (hnone : ∀ d, DetectionDefine c source d → d.line ≠ n) : Undetected p.state q.state := by
  have hn : n ≤ source.lines.length := Nat.le_of_lt (List.getElem?_eq_some_iff.1 ht).1
  refine respects_of_readLine .trans ?_ (includes_undetected (List.mem_singleton_self _) _) hq
  refine step_undetected c.expected p.state fun ha name value hd => ?_
  rw [Bool.true_and, Bool.eq_false_iff, ne_eq, awaitsDetection_iff hn hp]
  exact fun hawaited => hnone ⟨n, name, value⟩
    ⟨(activeDefine_iff ht hp).2 ⟨hd, ha⟩, hawaited⟩ rfl

/-- A board-detection define sets the marker, and is reported for what is wrong with it. -/
theorem DetectionDefine.readLine (hd : DetectionDefine c source d)
    (ht : source.lines[d.line]? = some text) (hp : Reaches c source d.line p)
    (hq : readLine c [source.path] ⟨source, true⟩ p (Source.lineNumber d.line, text) = .ok q) :
    q.state.markers.detection = true ∧
      detectionErrors q.state.findings =
        detectionErrors p.state.findings ++ mistakes c.expected source d := by
  obtain ⟨hclassify, ha⟩ := (activeDefine_iff ht hp).1 hd.toActiveDefine
  have hstate := state_of_readLine_define hclassify ha hq
  have hawaits : p.frame.awaitsDetection = true :=
    (awaitsDetection_iff (Nat.le_of_lt hd.lt_length) hp).2 hd.awaited
  have hreport := nameFindings_beside p.frame (.define d.name d.value)
    (.atLine source (Source.lineNumber d.line)) p.state
  constructor
  · rw [hstate, detection_define, hawaits]
    exact Bool.or_true _
  · rw [hstate, detectionErrors_define, detectionErrors_beside hreport, hawaits,
      detectionErrors_detectionFindings]
    rfl

/-! ## All lines together -/

/-- All board-detection defines above a line, from the top. -/
structure Lists (c : Context) (source : Source) (n : Nat) (ds : List Written) : Prop where
  sorted : ds.Pairwise (·.line < ·.line)
  mem_iff : ∀ d, d ∈ ds ↔ DetectionDefine c source d ∧ d.line < n

theorem lists_zero : Lists c source 0 [] :=
  ⟨.nil, fun _ => iff_of_false List.not_mem_nil fun h => Nat.not_lt_zero _ h.2⟩

theorem Lists.skip (h : Lists c source n ds)
    (hnone : ∀ d, DetectionDefine c source d → d.line ≠ n) : Lists c source (n + 1) ds := by
  refine ⟨h.sorted, fun d => (h.mem_iff d).trans (and_congr_right fun hd => ?_)⟩
  exact ⟨Nat.lt_succ_of_lt, fun hlt => Nat.lt_of_le_of_ne (Nat.le_of_lt_succ hlt) (hnone d hd)⟩

theorem Lists.snoc (h : Lists c source d.line ds) (hd : DetectionDefine c source d) :
    Lists c source (d.line + 1) (ds ++ [d]) := by
  constructor
  · refine List.pairwise_append.2 ⟨h.sorted, List.pairwise_singleton _ _, fun d' hd' d'' hd'' => ?_⟩
    rw [List.mem_singleton.1 hd'']
    exact ((h.mem_iff d').1 hd').2
  · intro d'
    rw [List.mem_append, List.mem_singleton, h.mem_iff, Nat.lt_succ_iff_lt_or_eq, and_or_left]
    refine or_congr_right ⟨?_, fun h' => ?_⟩
    · rintro rfl
      exact ⟨hd, rfl⟩
    · exact h'.1.toActiveDefine.unique hd.toActiveDefine h'.2

/-- The marker and the errors come from the board-detection defines that have been read. -/
theorem detection_of_reaches (hn : n ≤ source.lines.length) (h : Reaches c source n p) :
    ∃ ds, Lists c source n ds ∧ (p.state.markers.detection = true ↔ ds ≠ []) ∧
      detectionErrors p.state.findings = ds.flatMap (mistakes c.expected source) := by
  refine Reaches.induction (P := fun n p => ∃ ds, Lists c source n ds ∧
    (p.state.markers.detection = true ↔ ds ≠ []) ∧
    detectionErrors p.state.findings = ds.flatMap (mistakes c.expected source)) ?_ ?_ hn h
  · exact ⟨[], lists_zero, iff_of_false nofun fun h => h rfl, rfl⟩
  · rintro n text p q ht hp ⟨ds, hds, hmarker, herrors⟩ hq
    by_cases hdefine : ∃ d, DetectionDefine c source d ∧ d.line = n
    · obtain ⟨d, hd, rfl⟩ := hdefine
      obtain ⟨hmarker', herrors'⟩ := hd.readLine ht hp hq
      refine ⟨ds ++ [d], hds.snoc hd, iff_of_true hmarker' (List.concat_ne_nil d ds), ?_⟩
      rw [herrors', herrors, List.flatMap_append, List.flatMap_singleton]
    · have hnone : ∀ d, DetectionDefine c source d → d.line ≠ n := fun d hd hline =>
        hdefine ⟨d, hd, hline⟩
      have hquiet := undetected_of_readLine ht hp hq hnone
      refine ⟨ds, hds.skip hnone, ?_, ?_⟩
      · rw [hquiet.marker, hmarker]
      · rw [hquiet.errors, herrors]

/-- The marker is set if there is some board-detection define, and the errors about board detection
are, define by define, what is wrong with these. -/
theorem detection_of_scan {disk : Disk} {path : Path} {board : Board} {found : Findings Issue}
    (h : scan disk path = .ok (board, found)) :
    ∃ ds : List Written, ds.Pairwise (·.line < ·.line) ∧
      (∀ d, d ∈ ds ↔ DetectionDefine (.ofPath disk path) board.source d) ∧
      (board.markers.detection = true ↔ ds ≠ []) ∧
      detectionErrors found = ds.flatMap (mistakes (.ofPath path) board.source) := by
  obtain ⟨p, hp, hstate⟩ := reaches_of_scanSource (scanSource_of_scan h)
  obtain ⟨ds, hds, hmarker, herrors⟩ := detection_of_reaches (Nat.le_refl _) hp
  rw [← hstate] at hmarker herrors
  refine ⟨ds, hds.sorted, fun d => (hds.mem_iff d).trans (and_iff_left_of_imp ?_), hmarker, herrors⟩
  exact fun hd => hd.lt_length

/-- A header whose path asks for the name `A`. Its comment stands in an inactive branch, and there
is an include in front of the next define. -/
def announcedText : String :=
  "#ifdef X\n// For board detection\n#endif\n#include \"c.h\"\n#define B 1\n"

/-- This header, next to one with a comment and a define of its own. -/
def announcedDisk : Disk :=
  Snapshot.disk [(⟨"boards/a.h"⟩, .ok announcedText),
    (⟨"boards/c.h"⟩, .ok "#define C 1\n// For board detection\n")]

def announcedContext : Context := .ofPath announcedDisk ⟨"boards/a.h"⟩

def announcedSource : Source := .ofText ⟨"boards/a.h"⟩ announcedText

/-- The include in front of the define. -/
def announcedInclude : ActiveInclude announcedContext announcedSource where
  before := ["#ifdef X", "// For board detection", "#endif"]
  line := "#include \"c.h\""
  after := ["#define B 1"]
  lines_eq := by decide +kernel
  path := "c.h"
  classify_line := by decide +kernel
  name := ⟨"c.h", by decide, by decide⟩
  included := by decide +kernel
  text := "#define C 1\n// For board detection\n"
  readable := by
    have hchild : announcedContext.directory.child ⟨"c.h", by decide, by decide⟩ =
        ⟨"boards/c.h"⟩ := by decide +kernel
    rw [hchild]
    rfl
  point := (readLines announcedContext [announcedSource.path] ⟨announcedSource, true⟩
    (announcedSource.numberedLines.take 3) (start announcedSource)).toOption.getD
      (start announcedSource)
  reached := eq_ok_getD (by decide +kernel) (start announcedSource)
  active := by decide +kernel

/-- The comment reaches past the included header, whose own comment and define do not matter. -/
theorem detection_of_scan_announced :
    ∃ board found, scan announcedDisk ⟨"boards/a.h"⟩ = .ok (board, found) ∧
      detectionErrors found = [⟨.detectionValue "B", .atLine announcedSource 5⟩,
        ⟨.detectionName "B" "A", .atLine announcedSource 5⟩] ∧
      ∃ ds : List Written, ds.Pairwise (·.line < ·.line) ∧
        (∀ d, d ∈ ds ↔
          DetectionDefine (.ofPath announcedDisk ⟨"boards/a.h"⟩) board.source d) ∧
        (board.markers.detection = true ↔ ds ≠ []) ∧
        detectionErrors found = ds.flatMap (mistakes (.ofPath ⟨"boards/a.h"⟩) board.source) := by
  have hread : announcedDisk.read ⟨"boards/a.h"⟩ = .ok announcedText :=
    Snapshot.read_disk_cons_self _ _ _
  have hseen : (scanSource announcedContext announcedSource).toOption.map
      (fun s => detectionErrors s.findings) =
        some [⟨.detectionValue "B", .atLine announcedSource 5⟩,
          ⟨.detectionName "B" "A", .atLine announcedSource 5⟩] := by
    rw [announcedInclude.scanSource_eq, readLine_of_include announcedInclude.classify_line
      announcedInclude.included announcedInclude.readable (by decide +kernel)
      announcedInclude.active]
    decide +kernel
  cases hs : scanSource announcedContext announcedSource with
  | error halt =>
    rw [hs] at hseen
    exact absurd hseen nofun
  | ok s =>
    rw [hs] at hseen
    have hscan : scan announcedDisk ⟨"boards/a.h"⟩ =
        .ok (⟨announcedSource, s.symbols, .ofPath ⟨"boards/a.h"⟩, s.markers⟩, s.findings) := by
      rw [scan, hread]
      exact congrArg (Except.map _) hs
    exact ⟨_, _, hscan, Option.some.inj hseen, detection_of_scan hscan⟩

end Scan

end BoardLint
