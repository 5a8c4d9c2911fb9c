import BoardLint.Proofs.Scan.Quiet

/-!
# Include guards

A scan accepts the include guard of a header if there is exactly one active define in it that has
the name of a guard, and if this one is as a guard has to be: behind the `#ifndef` of its name,
without a value, the first define of all and named after the path (`guardAccepted_iff`). That there
is no second one is checked nowhere: the first one would be in its way (`Sound.le`).

The errors come line by line, and so do the proofs: `guard_of_readLine` is what one line adds, and
`guard_of_reaches` what all lines before a point have added.
-/

namespace BoardLint.Scan

open ExpectedNames

variable {source : Source} {c : Context} {chain : List Path} {header : Header} {n : Nat}
  {k : UInt32} {name : String} {value : Option String} {text : String} {p q : Point}

/-! ## The line before -/

theorem frame_of_readLine_ifUndefined (hd : Directive.classify text = .ifUndefined name)
    (hq : readLine c chain header p (k, text) = .ok q) :
    q.frame = enter { p.frame with
      lastIfndef := if p.frame.branches.isActive then some (name, k) else p.frame.lastIfndef }
      (!p.state.symbols.isDefined name) := by
  have h := frame?_of_readLine hq
  unfold step at h
  rw [hd] at h
  exact (Option.some.inj h).symm

/-- The line before is the `#ifndef` of this name. -/
def BehindIfndef (source : Source) (n : Nat) (name : String) : Prop :=
  ∃ m text, n = m + 1 ∧ source.lines[m]? = some text ∧
    Directive.classify text = .ifUndefined name

/-- What is remembered as an `#ifndef` is one, on a line before. -/
theorem behindIfndef_of_lastIfndef (hn : n ≤ source.lines.length) (h : Reaches c source n p) :
    ∀ name k, p.frame.lastIfndef = some (name, k) →
      ∃ m < n, k = Source.lineNumber m ∧ BehindIfndef source (m + 1) name := by
  refine Reaches.induction (P := fun n p => ∀ name k, p.frame.lastIfndef = some (name, k) →
    ∃ m < n, k = Source.lineNumber m ∧ BehindIfndef source (m + 1) name) ?_ ?_ hn h
  · exact fun _ _ => nofun
  · intro n text p q ht _ ih hq name k hk
    rw [(remembers_of_readLine hq).lastIfndef] at hk
    have hbefore : p.frame.lastIfndef = some (name, k) →
        ∃ m < n + 1, k = Source.lineNumber m ∧ BehindIfndef source (m + 1) name := by
      intro hk
      obtain ⟨m, hm, hbehind⟩ := ih name k hk
      exact ⟨m, Nat.lt_succ_of_lt hm, hbehind⟩
    unfold lastIfndefBehind at hk
    split at hk
    · rename_i hd
      split at hk
      · obtain ⟨rfl, rfl⟩ := Prod.mk.inj (Option.some.inj hk)
        exact ⟨n, Nat.lt_succ_self n, rfl, n, text, rfl, ht, hd⟩
      · exact hbefore hk
    · exact hbefore hk

theorem precedingIfndef?_eq_some_iff {frame : Frame} :
    precedingIfndef? frame k = some name ↔
      ∃ before, frame.lastIfndef = some (name, before) ∧ before + 1 = k := by
  unfold precedingIfndef?
  split <;> simp_all [and_comm]

/-- In front of an active line, the `#ifndef` that is remembered of the line before is there. Where
lines have numbers of their own, it is on no other line. -/
theorem precedingIfndef?_iff_behindIfndef (hnumbers : source.HasNumbers)
    (hn : n ≤ source.lines.length) (h : Reaches c source n p)
    (ha : p.frame.branches.isActive = true) :
    precedingIfndef? p.frame (Source.lineNumber n) = some name ↔ BehindIfndef source n name := by
  rw [precedingIfndef?_eq_some_iff]
  constructor
  · rintro ⟨k, hk, hnext⟩
    obtain ⟨m, hm, rfl, hbehind⟩ := behindIfndef_of_lastIfndef hn h name k hk
    have hn32 : n < UInt32.size := Nat.lt_of_le_of_lt hn hnumbers
    rw [← Source.lineNumber_succ, Source.lineNumber_inj (by omega) hn32] at hnext
    exact hnext ▸ hbehind
  · rintro ⟨m, text, rfl, ht, hd⟩
    obtain ⟨p', -, hread⟩ := (reaches_succ_iff ht).1 h
    have hframe := frame_of_readLine_ifUndefined hd hread
    rw [hframe] at ha ⊢
    -- a branch can only be active inside of an active one
    have hactive : p'.frame.branches.isActive = true := (Bool.and_eq_true_iff.1 ha).1
    refine ⟨Source.lineNumber m, ?_, (Source.lineNumber_succ m).symm⟩
    rw [enter, if_pos hactive]

/-! ## Lines that define a guard -/

/-- An active line of a root header that defines a name of the form of a guard, and the point in
front of it. -/
structure GuardLine (c : Context) (source : Source) (n : Nat) (name : String)
    (value : Option String) (p : Point) : Prop where
  line : ∃ text, source.lines[n]? = some text ∧ Directive.classify text = .define name value
  shaped : GuardShaped name
  reached : Reaches c source n p
  active : p.frame.branches.isActive = true

/-- The guard that a line defines is as it has to be. -/
structure Sound (c : Context) (source : Source) (n : Nat) (name : String) (value : Option String)
    (p : Point) : Prop where
  behind : BehindIfndef source n name
  plain : value = none
  /-- No header has made a define before. -/
  first : ∀ d ∈ p.state.symbols.defines.entries, d.isSynthetic = true
  named : name = c.expected.guard

theorem GuardLine.lt_length (hg : GuardLine c source n name value p) :
    n < source.lines.length := by
  obtain ⟨text, ht, -⟩ := hg.line
  exact (List.getElem?_eq_some_iff.1 ht).1

theorem GuardLine.unique {name' : String} {value' : Option String}
    (h : GuardLine c source n name value p) (h' : GuardLine c source n name' value' q) :
    name = name' ∧ value = value' ∧ p = q := by
  obtain ⟨text, ht, hd⟩ := h.line
  obtain ⟨text', ht', hd'⟩ := h'.line
  obtain rfl := Option.some.inj (ht.symm.trans ht')
  obtain ⟨rfl, rfl⟩ := Directive.define.inj (hd.symm.trans hd')
  exact ⟨rfl, rfl, h.reached.unique h'.reached⟩

theorem not_guardShaped_of_initial {d : Define}
    (hd : d ∈ (initialSymbols source).defines.entries) : ¬ GuardShaped d.name := by
  unfold initialSymbols at hd
  split at hd
  · have hentry : d = ⟨"PICO_RP2350", some (.int 1), some (.int 1), .whole source⟩ :=
      List.mem_singleton.1 hd
    rw [hentry, ← isGuardShaped_iff]
    show ¬ isGuardShaped "PICO_RP2350" = true
    decide
  · exact absurd hd List.not_mem_nil

section Numbers

variable (hnumbers : source.HasNumbers)
include hnumbers

theorem quiet_of_readLine (ht : source.lines[n]? = some text) (hp : Reaches c source n p)
    (hq : readLine c [source.path] ⟨source, true⟩ p (Source.lineNumber n, text) = .ok q)
    (hg : ∀ name value, ¬ GuardLine c source n name value p) : Quiet source p.state q.state := by
  refine respects_of_readLine .trans ?_ (includes_quiet (List.mem_singleton_self _) _) hq
  refine step_quiet c.expected p.frame p.state fun ha name value hd => ?_
  have hname : ¬ GuardShaped name := fun h => hg name value ⟨⟨text, ht, hd⟩, h, hp, ha⟩
  refine ⟨?_, fun _ => hname⟩
  rintro ⟨n', text', name', value', hl, ht', hd', hshaped⟩
  obtain rfl : Source.lineNumber n = n' := Option.some.inj (congrArg Location.line hl)
  obtain rfl : text = text' := hnumbers.eq_of_mem (Source.mem_numberedLines ht) ht'
  obtain ⟨rfl, -⟩ := Directive.define.inj (hd.symm.trans hd')
  exact hname hshaped

/-- A line that defines a guard sets the marker, and it is reported unless it is as it has to be. -/
theorem GuardLine.readLine (hg : GuardLine c source n name value p)
    (ht : source.lines[n]? = some text)
    (hq : readLine c [source.path] ⟨source, true⟩ p (Source.lineNumber n, text) = .ok q) :
    q.state.markers.guard = true ∧
      (Clean source q.state.findings ↔
        Clean source p.state.findings ∧ Sound c source n name value p) ∧
      q.state.symbols =
        (p.state.symbols.define name value (.atLine source (Source.lineNumber n))).1 := by
  obtain ⟨text', ht', hd⟩ := hg.line
  obtain rfl : text = text' := Option.some.inj (ht.symm.trans ht')
  have hstate := state_of_readLine_define hd hg.active hq
  have hguard : (true && isGuardShaped name) = true := isGuardShaped_iff.2 hg.shaped
  have hplace : AtGuard source (.atLine source (Source.lineNumber n)) :=
    ⟨_, text, name, value, rfl, Source.mem_numberedLines ht, hd, hg.shaped⟩
  have hbefore : precedingIfndef? p.frame (Source.lineNumber n) = some name ↔
      BehindIfndef source n name :=
    precedingIfndef?_iff_behindIfndef hnumbers (Nat.le_of_lt hg.lt_length) hg.reached hg.active
  refine ⟨?_, ?_, ?_⟩
  · rw [hstate, guard_define, hguard, Bool.or_true]
  · rw [hstate, clean_findings_define, clean_ifndefFindings, hguard, clean_guardFindings,
      (nameFindings_beside p.frame _ _ p.state).quiet.clean]
    refine and_congr_right fun _ => ?_
    constructor
    · rintro ⟨hmatch, h⟩
      obtain ⟨hsome, hvalue, hcount, hname⟩ := h rfl
      obtain ⟨ifndef, hifndef⟩ := Option.ne_none_iff_exists'.1 hsome
      obtain rfl : ifndef = name :=
        Decidable.byContradiction fun hne => hmatch ifndef hifndef hne hplace
      exact ⟨hbefore.1 hifndef, hvalue, Symbols.declaredCount_eq_zero_iff.1 hcount, hname⟩
    · intro h
      have hifndef := hbefore.2 h.behind
      refine ⟨fun ifndef hsome hne _ => ?_, fun _ => ⟨?_, h.plain, ?_, h.named⟩⟩
      · exact hne (Option.some.inj (hsome.symm.trans hifndef))
      · rw [hifndef]
        exact nofun
      · exact Symbols.declaredCount_eq_zero_iff.2 h.first
  · rw [hstate, symbols_define]
    rfl

/-! ## All lines together -/

theorem grown_of_readLine (ht : source.lines[n]? = some text) (hp : Reaches c source n p)
    (hq : readLine c [source.path] ⟨source, true⟩ p (Source.lineNumber n, text) = .ok q) :
    p.state.symbols.Grown q.state.symbols := by
  by_cases hg : ∃ name value, GuardLine c source n name value p
  · obtain ⟨name, value, hg⟩ := hg
    rw [(hg.readLine hnumbers ht hq).2.2]
    exact Symbols.grown_define ..
  · exact (quiet_of_readLine hnumbers ht hp hq fun name value h => hg ⟨name, value, h⟩).grown

theorem grown_of_reaches {m : Nat} (hn : n ≤ source.lines.length) (hmn : m ≤ n)
    (hp : Reaches c source m p) (hq : Reaches c source n q) :
    p.state.symbols.Grown q.state.symbols := by
  refine Reaches.induction (P := fun n q => m ≤ n → p.state.symbols.Grown q.state.symbols)
    ?_ ?_ hn hq hmn
  · intro hm
    obtain rfl := Nat.le_zero.1 hm
    rw [reaches_zero_iff.1 hp]
    exact .refl _
  · intro n text q q' ht hq ih hread hm
    rcases Nat.lt_or_eq_of_le hm with hlt | rfl
    · exact (ih (Nat.le_of_lt_succ hlt)).trans (grown_of_readLine hnumbers ht hq hread)
    · rw [hp.unique ((reaches_succ_iff ht).2 ⟨q, hq, hread⟩)]
      exact .refl _

/-- In front of the first define, no guard is defined. -/
theorem not_mem_names_of_synthetic (hn : n ≤ source.lines.length) (hp : Reaches c source n p)
    (hs : ∀ d ∈ p.state.symbols.defines.entries, d.isSynthetic = true) (hname : GuardShaped name) :
    name ∉ p.state.symbols.defines.names := by
  obtain ⟨more, hmore, hdeclared⟩ :=
    grown_of_reaches hnumbers hn (Nat.zero_le n) (reaches_zero_iff.2 rfl) hp
  intro hmem
  obtain ⟨d, hd, rfl⟩ := List.mem_map.1 hmem
  have hsynthetic := hs d hd
  rw [hmore] at hd
  rcases List.mem_append.1 hd with hd | hd
  · exact not_guardShaped_of_initial hd hname
  · rw [hdeclared d hd] at hsynthetic
    exact absurd hsynthetic nofun

/-- A guard that is as it has to be is the first define. -/
theorem Sound.entries (hs : Sound c source n name value p)
    (hg : GuardLine c source n name value p) (hq : Reaches c source (n + 1) q) :
    q.state.symbols.defines.entries = p.state.symbols.defines.entries ++
      [⟨c.expected.guard, none, none, .atLine source (Source.lineNumber n)⟩] := by
  obtain ⟨text, ht, -⟩ := hg.line
  obtain ⟨p', hp', hread⟩ := (reaches_succ_iff ht).1 hq
  obtain rfl := hp'.unique hg.reached
  -- what stands in no header has no name of this form, so the name is new
  have hnew := not_mem_names_of_synthetic hnumbers (Nat.le_of_lt hg.lt_length) hg.reached
    hs.first hg.shaped
  rw [(hg.readLine hnumbers ht hread).2.2, Symbols.entries_define_of_new hnew, hs.named, hs.plain]
  simp [Symbols.entry, Symbols.kept, Symbols.resolve, Symbols.Raw.resolve]

/-- Behind a guard that is as it has to be, no second one is. -/
theorem Sound.le {m : Nat} {name' : String} {value' : Option String}
    (hs : Sound c source n name value p) (hg : GuardLine c source n name value p)
    (hs' : Sound c source m name' value' q) (hg' : GuardLine c source m name' value' q) :
    m ≤ n := by
  refine Nat.le_of_not_lt fun hlt => ?_
  -- the guard of line `n` would be among the defines before line `m`
  obtain ⟨r, hr⟩ := hg'.reached.of_le hlt
  obtain ⟨more, hmore, -⟩ :=
    grown_of_reaches hnumbers (Nat.le_of_lt hg'.lt_length) hlt hr hg'.reached
  rw [hs.entries hnumbers hg hr] at hmore
  have hsynthetic := hs'.first ⟨c.expected.guard, none, none, .atLine source (Source.lineNumber n)⟩
    (by simp [hmore])
  exact absurd hsynthetic nofun

/-- The line with this number defines a guard. -/
def GuardAt (c : Context) (source : Source) (n : Nat) : Prop :=
  ∃ name value p, GuardLine c source n name value p

/-- If the line with this number defines a guard, it is as it has to be. -/
def SoundAt (c : Context) (source : Source) (n : Nat) : Prop :=
  ∀ name value p, GuardLine c source n name value p → Sound c source n name value p

theorem guard_of_readLine (ht : source.lines[n]? = some text) (hp : Reaches c source n p)
    (hq : readLine c [source.path] ⟨source, true⟩ p (Source.lineNumber n, text) = .ok q) :
    (q.state.markers.guard = true ↔ p.state.markers.guard = true ∨ GuardAt c source n) ∧
      (Clean source q.state.findings ↔ Clean source p.state.findings ∧ SoundAt c source n) := by
  by_cases hg : ∃ name value, GuardLine c source n name value p
  · obtain ⟨name, value, hg⟩ := hg
    obtain ⟨hmarker, hclean, -⟩ := hg.readLine hnumbers ht hq
    have hsound : SoundAt c source n ↔ Sound c source n name value p := by
      constructor
      · exact fun h => h name value p hg
      · intro h name' value' p' hg'
        obtain ⟨rfl, rfl, rfl⟩ := hg.unique hg'
        exact h
    rw [hclean, hsound]
    exact ⟨iff_of_true hmarker (.inr ⟨name, value, p, hg⟩), Iff.rfl⟩
  · have hquiet := quiet_of_readLine hnumbers ht hp hq fun name value h => hg ⟨name, value, h⟩
    -- the scan comes to the line at one point only
    have hnone : ∀ name value p', ¬ GuardLine c source n name value p' := by
      intro name value p' h
      obtain rfl := hp.unique h.reached
      exact hg ⟨name, value, h⟩
    rw [hquiet.guard, hquiet.clean]
    refine ⟨(or_iff_left ?_).symm, (and_iff_left ?_).symm⟩
    · rintro ⟨name, value, p', h⟩
      exact hnone name value p' h
    · exact fun name value p' h => absurd h (hnone name value p')

/-- The marker tells whether a line defined a guard, and the errors whether all were as they have to
be. -/
theorem guard_of_reaches (hn : n ≤ source.lines.length) (h : Reaches c source n p) :
    (p.state.markers.guard = true ↔ ∃ m < n, GuardAt c source m) ∧
      (Clean source p.state.findings ↔ ∀ m < n, SoundAt c source m) := by
  refine Reaches.induction (P := fun n p =>
    (p.state.markers.guard = true ↔ ∃ m < n, GuardAt c source m) ∧
      (Clean source p.state.findings ↔ ∀ m < n, SoundAt c source m)) ?_ ?_ hn h
  · refine ⟨⟨nofun, ?_⟩, iff_of_true clean_empty nofun⟩
    rintro ⟨m, hm, -⟩
    exact absurd hm (Nat.not_lt_zero m)
  · rintro n text p q ht hp ⟨hmarker, hclean⟩ hq
    obtain ⟨hmarker', hclean'⟩ := guard_of_readLine hnumbers ht hp hq
    rw [hmarker', hclean', hmarker, hclean, Nat.exists_lt_succ_right, Nat.forall_lt_succ_right]
    exact ⟨Iff.rfl, Iff.rfl⟩

end Numbers

/-! ## Accepted guards -/

/-- There is a guard, and nothing is said to be wrong with it. -/
structure GuardAccepted (board : Board) (found : Findings Issue) : Prop where
  marker : board.markers.guard = true
  clean : Clean board.source found

/-- This line defines a guard, no other line does, and it is as it has to be. -/
structure ProperGuard (c : Context) (source : Source) (n : Nat) : Prop where
  sound : ∃ name value p, GuardLine c source n name value p ∧ Sound c source n name value p
  unique : ∀ m, GuardAt c source m → m = n

theorem ProperGuard.soundAt (h : ProperGuard c source n) (m : Nat) : SoundAt c source m := by
  intro name value p hg
  obtain rfl := h.unique m ⟨name, value, p, hg⟩
  obtain ⟨name', value', p', hg', hs⟩ := h.sound
  obtain ⟨rfl, rfl, rfl⟩ := hg.unique hg'
  exact hs

theorem properGuard_of_soundAt (hnumbers : source.HasNumbers) (hg : GuardAt c source n)
    (h : ∀ m, SoundAt c source m) : ProperGuard c source n := by
  obtain ⟨name, value, p, hg⟩ := hg
  have hs := h n name value p hg
  refine ⟨⟨name, value, p, hg, hs⟩, ?_⟩
  rintro m ⟨name', value', p', hg'⟩
  have hs' := h m name' value' p' hg'
  exact Nat.le_antisymm (hs.le hnumbers hg hs' hg') (hs'.le hnumbers hg' hs hg)

/-- Where the proper guard is the first define, it stays so. -/
theorem ProperGuard.find?_entries (hnumbers : source.HasNumbers) (h : ProperGuard c source n)
    (hp : Reaches c source source.lines.length p) :
    p.state.symbols.defines.entries.find? (!·.isSynthetic) =
      some ⟨c.expected.guard, none, none, .atLine source (Source.lineNumber n)⟩ := by
  obtain ⟨name, value, q, hg, hs⟩ := h.sound
  obtain ⟨r, hr⟩ := hp.of_le hg.lt_length
  obtain ⟨more, hmore, -⟩ := grown_of_reaches hnumbers (Nat.le_refl _) hg.lt_length hr hp
  have hbefore : q.state.symbols.defines.entries.find? (!·.isSynthetic) = none := by
    rw [List.find?_eq_none]
    intro d hd
    rw [hs.first d hd]
    exact nofun
  rw [hmore, hs.entries hnumbers hg hr, List.append_assoc, List.find?_append, hbefore,
    Option.none_or]
  rfl

/-- A guard is accepted if there is exactly one active line that defines one, and this is behind the
`#ifndef` of the same name, without a value, the first define of all and named after the path. Then
it is the first define in the end. The lines of the header are few enough to have numbers of their
own, by which the line behind the `#ifndef` is told. -/
theorem guardAccepted_iff {disk : Disk} {path : Path} {board : Board} {found : Findings Issue}
    (h : scan disk path = .ok (board, found)) (hnumbers : board.source.HasNumbers) :
    (GuardAccepted board found ↔ ∃ n, ProperGuard (.ofPath disk path) board.source n) ∧
    ∀ n, ProperGuard (.ofPath disk path) board.source n →
      board.symbols.defines.entries.find? (!·.isSynthetic) =
        some ⟨(ExpectedNames.ofPath path).guard, none, none,
          .atLine board.source (Source.lineNumber n)⟩ := by
  obtain ⟨p, hp, hstate⟩ := reaches_of_scanSource (scanSource_of_scan h)
  obtain ⟨hmarker, hclean⟩ := guard_of_reaches hnumbers (Nat.le_refl _) hp
  rw [← hstate] at hmarker hclean
  refine ⟨⟨?_, ?_⟩, fun n hn => ?_⟩
  · rintro ⟨hguard, hfound⟩
    obtain ⟨n, -, hn⟩ := hmarker.1 hguard
    refine ⟨n, properGuard_of_soundAt hnumbers hn fun m name value p hg => ?_⟩
    exact hclean.1 hfound m hg.lt_length name value p hg
  · rintro ⟨n, hn⟩
    obtain ⟨name, value, q, hg, -⟩ := hn.sound
    exact ⟨hmarker.2 ⟨n, hg.lt_length, name, value, q, hg⟩, hclean.2 fun m _ => hn.soundAt m⟩
  · have hfirst := hn.find?_entries hnumbers hp
    rw [← hstate] at hfirst
    exact hfirst

/-- The path of the header of the development board. -/
def fpgaPath : Path := ⟨"boards/amethyst_fpga.h"⟩

/-- A header of the development board. Before its guard there is a define already, but one that
stands in no header. -/
def fpgaText : String :=
  "#ifndef _BOARDS_AMETHYST_FPGA_H\n#define _BOARDS_AMETHYST_FPGA_H\n#define A 1\n#endif\n"

/-- The disk that has this header and nothing else. -/
def fpgaDisk : Disk := Snapshot.disk [(fpgaPath, .ok fpgaText)]

theorem guardAccepted_fpga :
    ∃ board found n, scan fpgaDisk fpgaPath = .ok (board, found) ∧ board.source.HasNumbers ∧
      GuardAccepted board found ∧
      ProperGuard (.ofPath fpgaDisk fpgaPath) board.source n ∧
      board.symbols.defines.entries.find? (!·.isSynthetic) =
        some ⟨(ExpectedNames.ofPath fpgaPath).guard, none, none,
          .atLine board.source (Source.lineNumber n)⟩ := by
  have hread : fpgaDisk.read fpgaPath = .ok fpgaText := Snapshot.read_disk_cons_self _ _ _
  have hseen : (scanSource (.ofPath fpgaDisk fpgaPath) (.ofText fpgaPath fpgaText)).toOption.map
      (fun s => (s.markers.guard, s.findings.errors)) = some (true, []) := by
    rw [scanSource_eq]
    decide +kernel
  cases hs : scanSource (.ofPath fpgaDisk fpgaPath) (.ofText fpgaPath fpgaText) with
  | error halt =>
    rw [hs] at hseen
    exact absurd hseen nofun
  | ok s =>
    rw [hs] at hseen
    obtain ⟨hguard, herrors⟩ := Prod.mk.inj (Option.some.inj hseen)
    have hscan : scan fpgaDisk fpgaPath =
        .ok (⟨.ofText fpgaPath fpgaText, s.symbols, .ofPath fpgaPath, s.markers⟩, s.findings) := by
      rw [scan, hread]
      exact congrArg (Except.map _) hs
    have hclean : Clean (.ofText fpgaPath fpgaText) s.findings := by
      rw [Clean, herrors]
      exact List.forall_mem_nil _
    have hnumbers : (Source.ofText fpgaPath fpgaText).HasNumbers := by decide
    obtain ⟨hiff, hfirst⟩ := guardAccepted_iff hscan hnumbers
    obtain ⟨n, hn⟩ := hiff.1 ⟨hguard, hclean⟩
    exact ⟨_, _, n, hscan, hnumbers, ⟨hguard, hclean⟩, hn, hfirst n hn⟩

end BoardLint.Scan
