import BoardLint.Proofs.Scan.Lines

/-!
# Runs that make the same symbols

A header that is included is read with conditionals of its own and a longer chain of open headers.
If its lines stand in the place of the include, they go on where the line before ended. `Tracks`
relates a point of the one run to a point of the other: the second is inside of more conditionals,
all of them active, and both have the same symbols, wherever these were found. Two lines of one
text keep it (`step_tracks`), and so do all lines, with what they include (`readLines_tracks`).
-/

namespace BoardLint

/-! ## More conditionals around -/

namespace Branches

/-- The branches inside of others. The level around them all is that of the others. -/
def within (b outer : Branches) : Branches :=
  ⟨b.levels.dropLast ++ outer.levels, by rw [List.getLast?_append, outer.base]; rfl⟩

variable {b b' outer : Branches}

theorem none_within (outer : Branches) : none.within outer = outer := rfl

theorem levels_within : (b.within outer).levels = b.levels.dropLast ++ outer.levels := rfl

theorem within_none (b : Branches) : b.within none = b := by
  obtain ⟨levels, base⟩ := b
  obtain ⟨inner, rfl⟩ := List.getLast?_eq_some_iff.1 base
  exact ext (congrArg (· ++ [true]) List.dropLast_concat)

theorem isActive_within (ho : outer.isActive = true) : (b.within outer).isActive = b.isActive := by
  obtain rfl | ⟨top, parent, rest, h⟩ := b.cases_levels
  · exact ho
  · rw [isActive, levels_within, isActive, h]
    rfl

/-- Behind the innermost level there is the one that its conditional stands in, here as there. -/
theorem exists_levels_within (ho : outer.isActive = true) {top parent : Bool} {rest : List Bool}
    (h : b.levels = top :: parent :: rest) :
    ∃ more, (parent :: rest).dropLast ++ outer.levels = parent :: more ∧
      (b.within outer).levels = top :: parent :: more := by
  have hbase : (parent :: rest).getLast? = some true := by
    rw [← List.getLast?_cons_cons, ← h]
    exact b.base
  obtain ⟨more, hmore⟩ := exists_levels (within ⟨parent :: rest, hbase⟩ outer)
  rw [isActive_within ho] at hmore
  refine ⟨more, hmore, ?_⟩
  rw [levels_within, h]
  exact congrArg (top :: ·) hmore

theorem enter_within (ho : outer.isActive = true) (condition : Bool) :
    (b.within outer).enter condition = (b.enter condition).within outer := by
  obtain ⟨rest, h⟩ := b.exists_levels
  apply ext
  rw [levels_enter, isActive_within ho, levels_within, levels_within, levels_enter, h]
  rfl

theorem flip_within (ho : outer.isActive = true) (h : b.flip = (.ok (), b')) :
    (b.within outer).flip = (.ok (), b'.within outer) := by
  obtain rfl | ⟨top, parent, rest, hb⟩ := b.cases_levels
  · exact absurd h nofun
  · obtain ⟨base, hflip⟩ := flip_of_levels hb
    obtain ⟨more, hmore, hwithin⟩ := exists_levels_within ho hb
    obtain ⟨base', hflip'⟩ := flip_of_levels hwithin
    obtain rfl := (Prod.mk.inj (hflip.symm.trans h)).2
    rw [hflip']
    exact congrArg (Prod.mk _) (ext (congrArg (_ :: ·) hmore.symm))

theorem leave_within (ho : outer.isActive = true) (h : b.leave = (.ok (), b')) :
    (b.within outer).leave = (.ok (), b'.within outer) := by
  obtain rfl | ⟨top, parent, rest, hb⟩ := b.cases_levels
  · exact absurd h nofun
  · obtain ⟨base, hleave⟩ := leave_of_levels hb
    obtain ⟨more, hmore, hwithin⟩ := exists_levels_within ho hb
    obtain ⟨base', hleave'⟩ := leave_of_levels hwithin
    obtain rfl := (Prod.mk.inj (hleave.symm.trans h)).2
    rw [hleave']
    exact congrArg (Prod.mk _) (ext hmore.symm)

end Branches

/-! ## Symbols without locations -/

namespace Symbols

/-- The symbols, all of them at one and the same place. -/
def bare (s : Symbols) : Symbols := s.relocate fun _ => default

variable (s : Symbols)

theorem isDefined_bare (name : String) : s.bare.isDefined name = s.isDefined name :=
  isDefined_relocate s name

theorem define_bare (name : String) (raw : Option String) (l : Location) :
    (s.define name raw l).1.bare = (s.bare.define name raw default).1 :=
  (congrArg Prod.fst (define_relocate s name raw l)).symm

theorem bind_bare (kind : SettingKind) (name raw : String) (l : Location) :
    (s.bind kind name raw l).1.bare = (s.bare.bind kind name raw default).1 :=
  (congrArg Prod.fst (bind_relocate s kind name raw l)).symm

theorem content_bare : s.bare.content = s.content := content_relocate s

end Symbols

namespace Scan

theorem evaluate_bare (s : Symbols) (name : String) (l : Location) :
    (evaluate s name l).1 = (evaluate s.bare name default).1 :=
  (congrArg Prod.fst (evaluate_relocate s name l)).symm

/-! ## One line -/

/-- The second point is inside of more conditionals than the first one, with the same symbols. -/
structure Tracks (outer : Branches) (p p' : Point) : Prop where
  branches : p'.frame.branches = p.frame.branches.within outer
  symbols : p.state.symbols.bare = p'.state.symbols.bare

/-- The second step goes where the first one goes, unless the first one stops. -/
inductive StepTracks (outer : Branches) : Step → Step → Prop
  | next {frame frame' state state'} (h : Tracks outer ⟨frame, state⟩ ⟨frame', state'⟩) :
      StepTracks outer (.next frame state) (.next frame' state')
  | descend {name frame frame' state state'} (h : Tracks outer ⟨frame, state⟩ ⟨frame', state'⟩) :
      StepTracks outer (.descend name frame state) (.descend name frame' state')
  | stop {cause state r} : StepTracks outer (.stop cause state) r

section Step

variable {outer : Branches} {expected expected' : ExpectedNames} {header header' : Header}
  {n n' : UInt32} {frame frame' : Frame} {state state' : State}

theorem Tracks.report (h : Tracks outer ⟨frame, state⟩ ⟨frame', state'⟩)
    (found found' : Findings Issue) :
    Tracks outer ⟨frame, state.report found⟩ ⟨frame', state'.report found'⟩ :=
  ⟨h.branches, h.symbols⟩

theorem Tracks.enter (ho : outer.isActive = true)
    (h : Tracks outer ⟨frame, state⟩ ⟨frame', state'⟩) (condition : Bool) :
    Tracks outer ⟨Scan.enter frame condition, state⟩ ⟨Scan.enter frame' condition, state'⟩ := by
  refine ⟨?_, h.symbols⟩
  show frame'.branches.enter condition = (frame.branches.enter condition).within outer
  rw [h.branches, Branches.enter_within ho]

theorem Tracks.isActive (ho : outer.isActive = true)
    (h : Tracks outer ⟨frame, state⟩ ⟨frame', state'⟩) :
    frame'.branches.isActive = frame.branches.isActive := by
  rw [h.branches, Branches.isActive_within ho]

theorem Tracks.isDefined (h : Tracks outer ⟨frame, state⟩ ⟨frame', state'⟩) (name : String) :
    state'.symbols.isDefined name = state.symbols.isDefined name := by
  have hs : state.symbols.bare = state'.symbols.bare := h.symbols
  rw [← Symbols.isDefined_bare, ← hs, Symbols.isDefined_bare]

theorem ofBranches_tracks {r r' : Except NestingError Unit × Branches}
    (h : Tracks outer ⟨frame, state⟩ ⟨frame', state'⟩)
    (hr : ∀ b, r = (.ok (), b) → r' = (.ok (), b.within outer)) :
    StepTracks outer (.ofBranches frame state r) (.ofBranches frame' state' r') := by
  obtain ⟨_ | _, b⟩ := r
  · exact .stop
  · rw [hr b rfl]
    exact .next ⟨rfl, h.symbols⟩

theorem ifTrue_tracks (ho : outer.isActive = true)
    (h : Tracks outer ⟨frame, state⟩ ⟨frame', state'⟩) (l l' : Location) (negated : Bool)
    (name : String) :
    StepTracks outer (ifTrue l negated name frame state)
      (ifTrue l' negated name frame' state') := by
  unfold ifTrue
  rw [h.isActive ho]
  split
  · have hv : (evaluate state.symbols name l).1 = (evaluate state'.symbols name l').1 := by
      rw [evaluate_bare, h.symbols, ← evaluate_bare]
    exact .next (hv ▸ (h.enter ho _).report _ _)
  · exact .next (h.enter ho false)

theorem ifUndefined_tracks (ho : outer.isActive = true)
    (h : Tracks outer ⟨frame, state⟩ ⟨frame', state'⟩) (name : String) :
    StepTracks outer (ifUndefined n name frame state) (ifUndefined n' name frame' state') := by
  unfold ifUndefined
  rw [h.isDefined]
  have hframe : ∀ last last', Tracks outer ⟨{ frame with lastIfndef := last }, state⟩
      ⟨{ frame' with lastIfndef := last' }, state'⟩ := fun _ _ => ⟨h.branches, h.symbols⟩
  exact .next ((hframe _ _).enter ho _)

theorem define_tracks (h : Tracks outer ⟨frame, state⟩ ⟨frame', state'⟩) (name : String)
    (value : Option String) :
    StepTracks outer (define expected header n name value frame state)
      (define expected' header' n' name value frame' state') := by
  refine .next ⟨h.branches, ?_⟩
  show (state.symbols.define name value _).1.bare = (state'.symbols.define name value _).1.bare
  rw [Symbols.define_bare, h.symbols, ← Symbols.define_bare]

theorem setting_tracks (h : Tracks outer ⟨frame, state⟩ ⟨frame', state'⟩) (l l' : Location)
    (form : SettingForm) (kind : SettingKind) (name value : String) :
    StepTracks outer (setting l form kind name value frame state)
      (setting l' form kind name value frame' state') := by
  refine .next ⟨h.branches, ?_⟩
  show (state.symbols.bind kind name value _).1.bare =
    (state'.symbols.bind kind name value _).1.bare
  rw [Symbols.bind_bare, h.symbols, ← Symbols.bind_bare]

theorem includeSuggestion_tracks (h : Tracks outer ⟨frame, state⟩ ⟨frame', state'⟩)
    (l l' : Location) (path : String) :
    StepTracks outer (includeSuggestion expected header l path frame state)
      (includeSuggestion expected' header' l' path frame' state') := by
  unfold includeSuggestion
  split <;> split <;> exact .next ⟨h.branches, h.symbols⟩

theorem includeFile_tracks (h : Tracks outer ⟨frame, state⟩ ⟨frame', state'⟩) (l l' : Location)
    (path : String) :
    StepTracks outer (includeFile l path frame state) (includeFile l' path frame' state') := by
  unfold includeFile
  split
  · exact .descend h
  · exact .next (h.report _ _)

theorem perform_tracks (ho : outer.isActive = true)
    (h : Tracks outer ⟨frame, state⟩ ⟨frame', state'⟩) (d : Directive) :
    StepTracks outer (perform expected header n d frame state)
      (perform expected' header' n' d frame' state') := by
  have hactive : ∀ {r r' : Step}, StepTracks outer r r' →
      StepTracks outer (if frame.branches.isActive then r else .next frame state)
        (if frame'.branches.isActive then r' else .next frame' state') := by
    intro r r' hr
    rw [h.isActive ho]
    split
    · exact hr
    · exact .next h
  cases d with
  | elseBranch =>
    refine ofBranches_tracks h fun b hb => ?_
    rw [h.branches]
    exact Branches.flip_within ho hb
  | endIf =>
    refine ofBranches_tracks h fun b hb => ?_
    rw [h.branches]
    exact Branches.leave_within ho hb
  | ifTrue negated name => exact ifTrue_tracks ho h _ _ negated name
  | ifDefined name => exact .next (h.isDefined name ▸ h.enter ho _)
  | ifUndefined name => exact ifUndefined_tracks ho h name
  | unsupported word condition => exact .next ((h.enter ho false).report _ _)
  | boardDetection => exact .next ⟨h.branches, h.symbols⟩
  | includeSuggestion path => exact includeSuggestion_tracks h _ _ path
  | setting form kind name value => exact hactive (setting_tracks h _ _ form kind name value)
  | define name value => exact hactive (define_tracks h name value)
  | includeFile path => exact hactive (includeFile_tracks h _ _ path)
  | unrecognized => exact hactive (.next h)

/-- Two lines of one text lead to points of which one tracks the other. -/
theorem step_tracks (ho : outer.isActive = true)
    (h : Tracks outer ⟨frame, state⟩ ⟨frame', state'⟩) (text : String) :
    StepTracks outer (step expected header n text frame state)
      (step expected' header' n' text frame' state') :=
  perform_tracks ho (h.report _ _) _

end Step

/-! ## Runs -/

/-- If the first run goes on, then so does the second one, to what is related. -/
def Follows {α : Type} (R : α → α → Prop) (r r' : Except Halt α) : Prop :=
  ∀ a, r = .ok a → ∃ a', r' = .ok a' ∧ R a a'

theorem Follows.ok {α : Type} {R : α → α → Prop} {a a' : α} (h : R a a') :
    Follows R (.ok a) (.ok a') := by
  intro b hb
  obtain rfl := Except.ok.inj hb
  exact ⟨a', rfl, h⟩

theorem Follows.error {α : Type} {R : α → α → Prop} {halt : Halt} {r : Except Halt α} :
    Follows R (.error halt) r := fun _ h => absurd h nofun

theorem Follows.bind {α β : Type} {R : α → α → Prop} {S : β → β → Prop} {r r' : Except Halt α}
    {f f' : α → Except Halt β} (hr : Follows R r r')
    (hf : ∀ a a', R a a' → Follows S (f a) (f' a')) : Follows S (r.bind f) (r'.bind f') := by
  cases r with
  | error halt => exact .error
  | ok a =>
    obtain ⟨a', rfl, ha⟩ := hr a rfl
    exact hf a a' ha

/-- The first run has one more thing to do. -/
theorem Follows.bind_left {α : Type} {R S : α → α → Prop} {r r' : Except Halt α}
    {f : α → Except Halt α} (hr : Follows R r r')
    (hf : ∀ a a', R a a' → Follows S (f a) (.ok a')) : Follows S (r.bind f) r' := by
  cases r with
  | error halt => exact .error
  | ok a =>
    obtain ⟨a', rfl, ha⟩ := hr a rfl
    exact hf a a' ha

/-- The same symbols, but for their locations. -/
def SameSymbols (s s' : State) : Prop := s.symbols.bare = s'.symbols.bare

variable {c c' : Context} {chain chain' : List Path} {header header' : Header}
  {outer : Branches} {p p' : Point}

theorem closeFile_tracks (h : Tracks .none p p') :
    Follows SameSymbols (closeFile header p) (closeFile header' p') := by
  have hb : p'.frame.branches = p.frame.branches := by
    rw [h.branches, Branches.within_none]
  unfold closeFile
  rw [hb]
  cases p.frame.branches.finish with
  | ok _ => exact .ok h.symbols
  | error e => exact .error

/-- In the second run no header is open that is not open in the first one, and the disks agree on
all others. -/
structure Below (c c' : Context) (chain chain' : List Path) : Prop where
  isOpen_of_isOpen : ∀ target, isOpen chain' target = true → isOpen chain target = true
  agree : AgreeOff chain' c c'

theorem Below.append (hb : Below c c' chain chain') (target : Path) :
    Below c c' (chain ++ [target]) (chain' ++ [target]) := by
  refine ⟨fun t ht => ?_, hb.agree.append [target]⟩
  simp only [isOpen, List.any_append, Bool.or_eq_true] at ht ⊢
  exact ht.imp_left (hb.isOpen_of_isOpen t)

theorem Below.append_left (hb : Below c c' chain chain') (target : Path) :
    Below c c' (chain ++ [target]) chain' :=
  ⟨fun t ht => isOpen_append_left (hb.isOpen_of_isOpen t ht) [target], hb.agree⟩

/-- All lines keep what `Tracks` says. -/
def LinesTrack (c c' : Context) (chain chain' : List Path) : Prop :=
  ∀ {outer : Branches}, outer.isActive = true →
    ∀ {lines lines' : List (UInt32 × String)}, lines.map Prod.snd = lines'.map Prod.snd →
    ∀ {p p' : Point}, Tracks outer p p' → ∀ header header', Follows (Tracks outer)
      (readLines c chain header lines p) (readLines c' chain' header' lines' p')

/-- The lines of all headers that an include may lead to keep it. -/
def DescentTracks (c c' : Context) (chain chain' : List Path) : Prop :=
  ∀ name text, c.disk.read (c.directory.child name) = .ok text →
    ¬ isOpen chain (c.directory.child name) = true →
    LinesTrack c c' (chain ++ [c.directory.child name]) (chain' ++ [c.directory.child name])

theorem enterFile_tracks (hb : Below c c' chain chain') (hd : DescentTracks c c' chain chain')
    (name : FileName) {s s' : State} (hs : SameSymbols s s') (l l' : Location) :
    Follows SameSymbols (enterFile c chain l name s) (enterFile c' chain' l' name s') := by
  by_cases ho : isOpen chain (c.directory.child name) = true
  · rw [enterFile_of_open ho]
    exact .error
  · obtain ⟨ho', hr'⟩ := hb.agree.target fun h => ho (hb.isOpen_of_isOpen _ h)
    cases hr : c.disk.read (c.directory.child name) with
    | error reason =>
      rw [hr] at hr'
      rw [enterFile_of_unreadable ho hr, enterFile_of_unreadable ho' hr']
      exact .ok hs
    | ok text =>
      rw [hr] at hr'
      have hp : Tracks .none ⟨{}, s⟩ ⟨{}, s'⟩ := ⟨rfl, hs⟩
      rw [enterFile_of_text ho hr, enterFile_of_text ho' hr', hb.agree.directory, scanLines_eq,
        scanLines_eq]
      exact (hd name text hr ho rfl rfl hp _ _).bind fun _ _ hq => closeFile_tracks hq

theorem readLine_tracks (hb : Below c c' chain chain') (hd : DescentTracks c c' chain chain')
    (ho : outer.isActive = true) (h : Tracks outer p p') (n n' : UInt32)
    (text : String) :
    Follows (Tracks outer) (readLine c chain header p (n, text))
      (readLine c' chain' header' p' (n', text)) := by
  have hstep : StepTracks outer (step c.expected header n text p.frame p.state)
      (step c'.expected header' n' text p'.frame p'.state) := step_tracks ho h text
  unfold readLine
  revert hstep
  generalize step c.expected header n text p.frame p.state = r
  generalize step c'.expected header' n' text p'.frame p'.state = r'
  intro hstep
  cases hstep with
  | next h => exact .ok h
  | descend h =>
    exact (enterFile_tracks hb hd _ h.symbols _ _).bind fun _ _ hs => .ok ⟨h.branches, hs⟩
  | stop => exact .error

/-- Lines of the same texts lead to points of which one tracks the other. -/
theorem readLines_tracks (hb : Below c c' chain chain') : LinesTrack c c' chain chain' := by
  induction chain using descent_induction (c := c) generalizing chain' with
  | h chain ih =>
  have hd : DescentTracks c c' chain chain' := fun name text hr hopen =>
    ih name text hr hopen (hb.append _)
  intro outer ho lines lines' htexts p p' hp header header'
  induction lines generalizing lines' p p' with
  | nil =>
    rw [List.map_eq_nil_iff.1 htexts.symm]
    exact .ok hp
  | cons line lines ihl =>
    obtain ⟨n, text⟩ := line
    obtain ⟨⟨n', text'⟩, rest', rfl, rfl, htexts'⟩ := List.map_eq_cons_iff.1 htexts.symm
    have hfirst : Follows (Tracks outer) (readLine c chain header p (n, text'))
        (readLine c' chain' header' p' (n', text')) := readLine_tracks hb hd ho hp n n' text'
    exact hfirst.bind fun q q' hq => ihl htexts'.symm hq

end Scan

end BoardLint
