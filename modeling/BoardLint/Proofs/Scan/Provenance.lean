import BoardLint.Proofs.Scan.Descent
import BoardLint.Proofs.Scan.Effects

/-!
# Where records come from

Whatever a scan records carries a place: a line of the root header or of a header that an active
include has loaded, or such a header as a whole. A line is known by its number, which is its own
unless there are more lines than numbers (`Source.HasNumbers`). `Traced` is the invariant: all
places lie in loaded sources (`LiesIn`), and every entry was written by the line at its place,
unless the scan started with it. Lines keep it (`Traced.step`), and so do visits. `scan_points_back`
says what it means for the record of a scan, whether or not the scan ended early.
-/

namespace BoardLint

/-- The text is a directive for this entry: it has its kind and its name, and a value that reads as
its own. -/
def Entry.WrittenBy (text : String) : {space : SymbolSpace} → Entry space → Prop
  | .define, d => ∃ raw, Directive.classify text = .define (Define.name d) raw ∧
      Define.value d = raw.map Value.ofString
  | .setting kind, b => ∃ form raw,
      Directive.classify text = .setting form kind (Binding.name b) raw ∧
      Binding.value b = Value.ofString raw

namespace Scan

open Symbols

/-- The sources of a scan: the root header, and every header that active includes lead to. -/
inductive Loaded (disk : Disk) (path : Path) : Source → Prop
  | unread {reason : ReadError} (read : disk.read path = .error reason) :
      Loaded disk path (.unread path)
  | visited {text : String} {v : Visit} (read : disk.read path = .ok text)
      (visited : Visited (.ofPath disk path) (.ofText path text) v) :
      Loaded disk path v.header.source

/-- The place is one of these sources, or one of its lines. -/
structure LiesIn (L : Source → Prop) (l : Location) : Prop where
  source : L l.source
  line : ∀ n, l.line = some n → ∃ text, (n, text) ∈ l.source.numberedLines
  /-- The lines are counted from one, if the source is not too long to count them. -/
  bounds : ∀ n, l.line = some n → l.source.HasNumbers →
    1 ≤ n.toNat ∧ n.toNat ≤ l.source.lines.length

/-- The line at the place of an entry writes it. -/
def WrittenInPlace {space : SymbolSpace} (e : Entry space) : Prop :=
  ∃ n text, (Entry.location e).line = some n ∧
    (n, text) ∈ (Entry.location e).source.numberedLines ∧ e.WrittenBy text

variable {L : Source → Prop} {first : Symbols} {c : Context} {source : Source} {n : UInt32}
  {text : String} {s s' : State}

/-- All places lie in these sources, and all entries are written in place, but for those that were
there at first. -/
structure Traced (L : Source → Prop) (first : Symbols) (s : State) : Prop where
  places : ∀ space, ∀ e ∈ (s.symbols.table space).entries, LiesIn L (Entry.location e)
  written : ∀ space, ∀ e ∈ (s.symbols.table space).entries,
    WrittenInPlace e ∨ e ∈ (first.table space).entries
  findings : s.findings.All fun e => ∀ l ∈ e.places, LiesIn L l

/-! ## Lines -/

theorem liesIn_whole (h : L source) : LiesIn L (.whole source) := ⟨h, nofun, nofun⟩

theorem liesIn_atLine (h : L source) (ht : (n, text) ∈ source.numberedLines) :
    LiesIn L (.atLine source n) := by
  refine ⟨h, fun m hm => ?_, fun m hm hnumbers => ?_⟩
  · obtain rfl := Option.some.inj hm
    exact ⟨text, ht⟩
  · obtain rfl := Option.some.inj hm
    exact hnumbers.bounds ht

theorem location_made (s : Symbols) (c : Call) : Entry.location (s.made c) = c.location := by
  cases c <;> rfl

/-- What the call of a line makes is written by that line. -/
theorem writtenInPlace_made {call : Call} (ht : (n, text) ∈ source.numberedLines)
    (hc : (Directive.classify text).call? (.atLine source n) = some call) (s : Symbols) :
    WrittenInPlace (s.made call) := by
  have hl : Entry.location (s.made call) = .atLine source n :=
    (location_made s call).trans (Directive.location_of_call? hc)
  refine ⟨n, text, congrArg Location.line hl, ?_, ?_⟩
  · rw [hl]
    exact ht
  · unfold Directive.call? at hc
    split at hc
    · rename_i name value hd
      obtain rfl := Option.some.inj hc
      exact ⟨value, hd, rfl⟩
    · rename_i form kind name value hd
      obtain rfl := Option.some.inj hc
      exact ⟨form, value, hd, rfl⟩
    · exact absurd hc nofun

theorem Traced.report (h : Traced L first s) {f : Findings Issue}
    (hf : f.All fun e => ∀ l ∈ e.places, LiesIn L l) : Traced L first (s.report f) :=
  ⟨h.places, h.written, Findings.all_append.2 ⟨h.findings, hf⟩⟩

/-- The places of entries are traced, so findings at a traced place are. -/
theorem Traced.placed (h : Traced L first s) {l : Location} (hl : LiesIn L l)
    {f : Findings Issue} (hf : f.All (PlacedAt l s.symbols)) :
    f.All fun e => ∀ l' ∈ e.places, LiesIn L l' := by
  refine hf.imp fun e he l' hl' => ?_
  rcases he l' hl' with rfl | ⟨space, entry, hentry, rfl⟩
  · exact hl
  · exact h.places space entry hentry

/-- What a line does keeps all traced. -/
theorem Traced.step (h : Traced L first s) (hsource : L source)
    (ht : (n, text) ∈ source.numberedLines)
    (he : Effects (Directive.classify text) (.atLine source n) s s') : Traced L first s' := by
  obtain ⟨f, hf, hplaced⟩ := he.findings
  have hplace := liesIn_atLine hsource ht
  have hfindings : s'.findings.All fun e => ∀ l ∈ e.places, LiesIn L l := by
    rw [hf]
    exact Findings.all_append.2 ⟨h.findings, h.placed hplace hplaced⟩
  rcases he.symbols with hsame | ⟨call, hc, hcall⟩
  · refine ⟨?_, ?_, hfindings⟩
    · rw [hsame]
      exact h.places
    · rw [hsame]
      exact h.written
  · refine ⟨?_, ?_, hfindings⟩
    · rw [hcall]
      refine forall_entries_apply h.places ?_
      rw [location_made, Directive.location_of_call? hc]
      exact hplace
    · rw [hcall]
      exact forall_entries_apply
        (P := fun space e => WrittenInPlace e ∨ e ∈ (first.table space).entries)
        h.written (.inl (writtenInPlace_made ht hc _))

theorem traced_respected (c : Context) (L : Source → Prop) (first : Symbols) :
    Respected c (fun header => L header.source)
      (fun s s' => Traced L first s → Traced L first s') where
  refl _ := id
  trans h h' := h' ∘ h
  step hsource ht frame s h := h.step hsource ht (step_effects ..)
  unreadable hsource ht path reason s h := by
    refine h.report (Findings.all_error.2 fun l hl => ?_)
    obtain rfl := List.mem_singleton.1 hl
    exact liesIn_atLine hsource ht

/-! ## Scans -/

theorem location_of_initial (source : Source) (space : SymbolSpace) :
    ∀ e ∈ ((initialSymbols source).table space).entries, Entry.location e = .whole source := by
  have hempty : ∀ space, ∀ e ∈ ((∅ : Symbols).table space).entries,
      Entry.location e = .whole source := by
    intro space
    rw [table_empty]
    exact nofun
  unfold initialSymbols
  split
  · exact forall_entries_apply (c := .synthetic "PICO_RP2350" (.int 1) (.whole source)) hempty rfl
      space
  · exact hempty space

theorem traced_start (h : L source) : Traced L (initialSymbols source) (start source).state := by
  refine ⟨fun space e he => ?_, fun space e he => .inr he, Findings.all_empty⟩
  rw [location_of_initial source space e he]
  exact liesIn_whole h

theorem traced_scanSource (h : ∀ v, Visited c source v → L v.header.source) :
    Traced L (initialSymbols source) (left (scanSource c source)) :=
  Visit.result_respects (v := .root source) (traced_respected c L _) h (traced_start (h _ .refl))

/-- An error that ends a scan is at a line of its header, or about the header as a whole. -/
theorem liesIn_of_halts {v : Visit} {halt : Halt} (h : v.Halts c halt) (hv : L v.header.source) :
    ∀ l ∈ halt.cause.places, LiesIn L l := by
  have hline : ∀ {n text}, v.header.source.lines[n]? = some text →
      LiesIn L (.atLine v.header.source (Source.lineNumber n)) :=
    fun ht => liesIn_atLine hv (Source.mem_numberedLines ht)
  cases h with
  | unmatched comes line_eq stop => exact List.forall_mem_singleton.2 (hline line_eq)
  | unterminated comes finish => exact List.forall_mem_singleton.2 (liesIn_whole hv)
  | cycle asks opened =>
    obtain ⟨text, ht, -⟩ := asks.includes
    exact List.forall_mem_singleton.2 (hline ht)

end Scan

open Scan

/-- All that a scan has recorded when it ends, be it early. -/
structure Record where
  symbols : Symbols
  findings : Findings Issue
  /-- The error that has ended the scan early. -/
  fatal : Option (Located Issue)

/-- What the scan of a header records. -/
def record (disk : Disk) (path : Path) : Record :=
  match scan disk path with
  | .ok (board, found) => ⟨board.symbols, found, none⟩
  | .error halt => ⟨halt.state.symbols, halt.state.findings, some halt.cause⟩

/-- The error that has ended a scan early. -/
def Scan.cause? : Except Halt State → Option (Located Issue)
  | .ok _ => none
  | .error halt => some halt.cause

/-- The record of a header that can be read is what its lines leave behind. -/
theorem record_of_text {disk : Disk} {path : Path} {text : String}
    (hread : disk.read path = .ok text) :
    record disk path =
      ⟨(left (scanSource (.ofPath disk path) (.ofText path text))).symbols,
        (left (scanSource (.ofPath disk path) (.ofText path text))).findings,
        cause? (scanSource (.ofPath disk path) (.ofText path text))⟩ := by
  unfold record scan
  rw [hread]
  dsimp only
  cases scanSource (.ofPath disk path) (.ofText path text) <;> rfl

theorem record_of_unread {disk : Disk} {path : Path} {reason : ReadError}
    (hread : disk.read path = .error reason) :
    record disk path = ⟨∅, ∅, some ⟨.unreadable path reason, .whole (.unread path)⟩⟩ := by
  unfold record scan
  rw [hread]

/-- All that is recorded points at the line it came from. -/
structure Record.PointsBack (disk : Disk) (path : Path) (r : Record) : Prop where
  /-- Every place lies in the root header or in one that an active include has loaded. -/
  findings : r.findings.All fun e => ∀ l ∈ e.places, LiesIn (Loaded disk path) l
  fatal : ∀ e ∈ r.fatal, ∀ l ∈ e.places, LiesIn (Loaded disk path) l
  entries : ∀ space, ∀ e ∈ (r.symbols.table space).entries,
    LiesIn (Loaded disk path) (Entry.location e)
  /-- The line at the place of an entry writes it. It is found under its number, if the source is
  not too long to count its lines. -/
  written : ∀ space, ∀ e ∈ (r.symbols.table space).entries, ∀ n, (Entry.location e).line = some n →
    ∃ text, (n, text) ∈ (Entry.location e).source.numberedLines ∧
      ((Entry.location e).source.HasNumbers → (Entry.location e).source.line? n = some text) ∧
      e.WrittenBy text
  /-- Only what the scan started with is at no line. -/
  unwritten : ∀ space, ∀ e ∈ (r.symbols.table space).entries, (Entry.location e).line = none →
    ∃ text, disk.read path = .ok text ∧
      e ∈ ((initialSymbols (.ofText path text)).table space).entries

theorem Scan.Traced.pointsBack {disk : Disk} {path : Path} {text : String} {s : State}
    {fatal : Option (Located Issue)} (hread : disk.read path = .ok text)
    (h : Traced (Loaded disk path) (initialSymbols (.ofText path text)) s)
    (hfatal : ∀ e ∈ fatal, ∀ l ∈ e.places, LiesIn (Loaded disk path) l) :
    Record.PointsBack disk path ⟨s.symbols, s.findings, fatal⟩ where
  findings := h.findings
  fatal := hfatal
  entries := h.places
  written space e he n hn := by
    rcases h.written space e he with ⟨m, line, hm, hline, hwritten⟩ | hinitial
    · obtain rfl : m = n := Option.some.inj (hm.symm.trans hn)
      exact ⟨line, hline, fun hnumbers => hnumbers.line?_eq_some_iff.2 hline, hwritten⟩
    · rw [location_of_initial _ space e hinitial] at hn
      exact absurd hn nofun
  unwritten space e he hn := by
    rcases h.written space e he with ⟨m, line, hm, -⟩ | hinitial
    · exact absurd (hm.symm.trans hn) nofun
    · exact ⟨text, hread, hinitial⟩

theorem pointsBack_unread {disk : Disk} {path : Path} {reason : ReadError}
    (hread : disk.read path = .error reason) :
    Record.PointsBack disk path ⟨∅, ∅, some ⟨.unreadable path reason, .whole (.unread path)⟩⟩ := by
  have hnone : ∀ space, ((∅ : Symbols).table space).entries = [] := fun space => by
    rw [Symbols.table_empty, Table.entries_empty]
  refine ⟨Findings.all_empty, fun e he l hl => ?_, fun space e he => ?_, fun space e he => ?_,
    fun space e he => ?_⟩
  · obtain rfl := Option.mem_some_iff.1 he
    obtain rfl := List.mem_singleton.1 hl
    exact liesIn_whole (.unread hread)
  all_goals exact absurd (hnone space ▸ he) List.not_mem_nil

/-- Whatever a scan records, at whatever point it ends, points at the line it came from. -/
theorem scan_points_back (disk : Disk) (path : Path) :
    (record disk path).PointsBack disk path := by
  cases hread : disk.read path with
  | error reason =>
    rw [record_of_unread hread]
    exact pointsBack_unread hread
  | ok text =>
    have hloaded : ∀ v, Visited (.ofPath disk path) (.ofText path text) v →
        Loaded disk path v.header.source := fun v hv => .visited hread hv
    rw [record_of_text hread]
    refine (traced_scanSource hloaded).pointsBack hread fun e he => ?_
    cases hscan : scanSource (.ofPath disk path) (.ofText path text) with
    | ok s =>
      rw [hscan] at he
      exact absurd he nofun
    | error halt =>
      rw [hscan] at he
      obtain rfl := Option.mem_some_iff.1 he
      obtain ⟨v, hv, hhalts⟩ := scanSource_eq_error_iff.1 hscan
      exact liesIn_of_halts hhalts (hloaded v hv)

end BoardLint
