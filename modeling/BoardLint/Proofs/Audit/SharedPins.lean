import BoardLint.Audit.Defines
import BoardLint.Proofs.Symbols.Alias
import BoardLint.Proofs.Symbols.FirstCalls

/-!
# Pins that are shared

A pin that two defines write is warned of, and an alias of a pin is meant to be one
(`repeatWarnings writtenPin?`). What the audit remembers of a pin is the first define that comes to
it, by whatever way (`repeatWarnings reachedPin?`, `sharedPins_eq`). The two are the same unless an
alias is the first to come to a pin that some define writes (`AliasFirst`): then the first define
that writes the pin is warned of, though no other one does, and the alias is named.
-/

namespace BoardLint.Audit

open Symbols

variable {d e : Define} {ds before rest : List Define} {pin : Int} {held : List (Int × String)}
  {claim? : Define → Option Int}

/-! ## Who claims a pin -/

/-- The pin that a value is, behind the name of a pin. -/
def pinOf? (name : String) (value : Option Value) : Option Int :=
  if isPinName name then value.bind Value.int? else none

/-- The pin that a define comes to, through aliases or without. -/
def reachedPin? (d : Define) : Option Int := pinOf? d.name d.resolved

/-- The pin that a define writes itself. -/
def writtenPin? (d : Define) : Option Int := pinOf? d.name d.value

theorem pinOf?_eq_some_iff {name : String} {value : Option Value} :
    pinOf? name value = some pin ↔ isPinName name = true ∧ value = some (.int pin) := by
  unfold pinOf?
  split
  · next h => simp [h, Option.bind_eq_some_iff]
  · next h => simp [h]

/-- An integer that a define writes is what it comes to. -/
def KeepsWritten (d : Define) : Prop := ∀ n, d.value = some (.int n) → d.resolved = some (.int n)

theorem KeepsWritten.reaches (h : KeepsWritten d) (hw : writtenPin? d = some pin) :
    reachedPin? d = some pin := by
  obtain ⟨hname, hvalue⟩ := pinOf?_eq_some_iff.1 hw
  exact pinOf?_eq_some_iff.2 ⟨hname, h pin hvalue⟩

theorem KeepsWritten.writtenPin?_eq_none (h : KeepsWritten d) (hr : reachedPin? d = none) :
    writtenPin? d = none := by
  rw [Option.eq_none_iff_forall_ne_some]
  exact fun pin hw => absurd (hr.symm.trans (h.reaches hw)) nofun

/-- A define that comes to a pin writes this one, or is an alias. -/
theorem KeepsWritten.writtenPin?_of_reached (h : KeepsWritten d) (hr : reachedPin? d = some pin) :
    writtenPin? d = if d.value = d.resolved then some pin else none := by
  obtain ⟨hname, hresolved⟩ := pinOf?_eq_some_iff.1 hr
  split
  · next hvalue => exact pinOf?_eq_some_iff.2 ⟨hname, hvalue.trans hresolved⟩
  · next halias =>
    rw [Option.eq_none_iff_forall_ne_some]
    intro p hw
    have hvalue := (pinOf?_eq_some_iff.1 hw).2
    exact halias (hvalue.trans (h p hvalue).symm)

theorem keepsWritten_after (calls : List Call) :
    ∀ d ∈ (after calls).defines.entries, KeepsWritten d := by
  intro d hd n hn
  have hfaithful := allFaithful_after calls d.name d (Table.get?_eq_some_iff.2 ⟨hd, rfl⟩)
  cases hr : d.resolved with
  | none => exact absurd (.int n) (hfaithful.barren hr (.int n) (hn ▸ .refl))
  | some a =>
    have hwalk := hfaithful.walk a hr
    rw [hn] at hwalk
    exact (Final.int n).eq_of_walk hwalk

/-! ## Warnings of repeated pins -/

/-- The warning for a define that writes a pin, if a define in front of it claims the pin. It names
the first of these. -/
def repeatWarning? (claim? : Define → Option Int) (before : List Define) (d : Define) :
    Option (Located Issue) := do
  let pin ← writtenPin? d
  let first ← before.find? (claim? · = some pin)
  some ⟨.sharedPin first.name d.name pin, d.location⟩

/-- The warnings for all defines that write a pin which one in front of them claims, in the order of
the defines. -/
def repeatWarnings (claim? : Define → Option Int) (ds : List Define) : List (Located Issue) :=
  ds.zipIdx.filterMap fun (d, i) => repeatWarning? claim? (ds.take i) d

theorem repeatWarning?_eq_some_iff {w : Located Issue} :
    repeatWarning? claim? before d = some w ↔
      ∃ pin first, writtenPin? d = some pin ∧ before.find? (claim? · = some pin) = some first ∧
        w = ⟨.sharedPin first.name d.name pin, d.location⟩ := by
  unfold repeatWarning?
  simp only [Option.bind_eq_bind, Option.bind_eq_some_iff, Option.some.injEq]
  constructor
  · rintro ⟨pin, hpin, first, hfirst, rfl⟩
    exact ⟨pin, first, hpin, hfirst, rfl⟩
  · rintro ⟨pin, first, hpin, hfirst, rfl⟩
    exact ⟨pin, hpin, first, hfirst, rfl⟩

theorem mem_repeatWarnings_iff {w : Located Issue} :
    w ∈ repeatWarnings claim? ds ↔
      ∃ i d, ds[i]? = some d ∧ repeatWarning? claim? (ds.take i) d = some w := by
  unfold repeatWarnings
  rw [List.mem_filterMap]
  constructor
  · rintro ⟨⟨d, i⟩, hd, hw⟩
    exact ⟨i, d, List.mk_mem_zipIdx_iff_getElem?.1 hd, hw⟩
  · rintro ⟨i, d, hd, hw⟩
    exact ⟨(d, i), List.mk_mem_zipIdx_iff_getElem?.2 hd, hw⟩

/-! ## What the audit remembers -/

/-- For each pin, the name of the first define that comes to it. -/
def Remembers (held : List (Int × String)) (before : List Define) : Prop :=
  ∀ pin, held.lookup pin = (before.find? (reachedPin? · = some pin)).map Define.name

/-- What is held behind one more define. -/
def hold (held : List (Int × String)) (d : Define) : List (Int × String) :=
  match reachedPin? d with
  | none => held
  | some pin => if (held.lookup pin).isSome then held else (pin, d.name) :: held

theorem Remembers.hold (h : Remembers held before) (d : Define) :
    Remembers (hold held d) (before ++ [d]) := by
  intro pin
  rw [List.find?_append, List.find?_singleton, Option.map_or, ← h pin, Audit.hold]
  cases hd : reachedPin? d with
  | none => simp
  | some p =>
    by_cases hp : p = pin
    · subst hp
      cases hl : held.lookup p <;> simp [hl]
    · have hne : (pin == p) = false := beq_false_of_ne (Ne.symm hp)
      dsimp only
      split
      · simp [hp]
      · simp [hp, List.lookup_cons, hne]

theorem ite_isPinName_eq_some_iff :
    (if isPinName d.name then d.resolved else none) = some (.int pin) ↔
      reachedPin? d = some pin := by
  rw [reachedPin?, pinOf?_eq_some_iff]
  split
  · next h => simp [h]
  · next h => simp [h]

theorem repeatWarning?_of_remembers (h : Remembers held before) (d : Define) :
    repeatWarning? reachedPin? before d = (writtenPin? d).bind fun pin =>
      (held.lookup pin).map fun first => ⟨.sharedPin first d.name pin, d.location⟩ := by
  unfold repeatWarning?
  cases writtenPin? d with
  | none => rfl
  | some pin =>
    dsimp only [Option.bind_some, Option.bind_eq_bind]
    rw [h pin]
    cases before.find? (reachedPin? · = some pin) <;> rfl

/-- A define is warned of if it writes a pin that is held. -/
theorem sharedPins_cons (h : Remembers held before) (hd : KeepsWritten d) (rest : List Define) :
    sharedPins held (d :: rest) =
      (repeatWarning? reachedPin? before d).toList ++ sharedPins (hold held d) rest := by
  rw [sharedPins, repeatWarning?_of_remembers h]
  split
  · next pin hpin =>
    rw [ite_isPinName_eq_some_iff] at hpin
    rw [hd.writtenPin?_of_reached hpin, hold, hpin]
    cases hl : held.lookup pin <;> by_cases hliteral : d.value = d.resolved <;> simp [hl, hliteral]
  · next hother =>
    have hnone : reachedPin? d = none := by
      rw [Option.eq_none_iff_forall_ne_some]
      exact fun pin hpin => hother pin (ite_isPinName_eq_some_iff.2 hpin)
    rw [hd.writtenPin?_eq_none hnone, hold, hnone]
    rfl

theorem sharedPins_eq_from (h : Remembers held before) (hrest : ∀ d ∈ rest, KeepsWritten d) :
    sharedPins held rest = (rest.zipIdx before.length).filterMap fun (d, i) =>
      repeatWarning? reachedPin? ((before ++ rest).take i) d := by
  induction rest generalizing held before with
  | nil => rfl
  | cons d rest ih =>
    obtain ⟨hd, hrest⟩ := List.forall_mem_cons.1 hrest
    have hnext := ih (h.hold d) hrest
    rw [List.append_assoc, List.singleton_append, List.length_append, List.length_singleton]
      at hnext
    rw [sharedPins_cons h hd, hnext, List.zipIdx_cons, List.filterMap_cons]
    dsimp only
    rw [List.take_left]
    cases repeatWarning? reachedPin? before d <;> rfl

/-- The audit warns of every define that writes a pin which one in front of it comes to. -/
theorem sharedPins_eq (hds : ∀ d ∈ ds, KeepsWritten d) :
    sharedPins [] ds = repeatWarnings reachedPin? ds := by
  have hempty : Remembers [] [] := fun _ => rfl
  exact sharedPins_eq_from hempty hds

/-! ## Aliases that come first -/

/-- Some define writes a pin, and the first one that comes to the pin does not. -/
def AliasFirst (ds : List Define) : Prop :=
  ∃ pin first, ds.find? (reachedPin? · = some pin) = some first ∧ writtenPin? first ≠ some pin ∧
    ∃ d ∈ ds, writtenPin? d = some pin

/-- If the first that meets the weaker condition meets the stronger one, both find the same. -/
theorem find?_take_eq {α : Type} {p q : α → Bool} {l : List α}
    (hpq : ∀ a ∈ l, p a = true → q a = true) (h : ∀ a, l.find? q = some a → p a = true) (i : Nat) :
    (l.take i).find? q = (l.take i).find? p := by
  cases hq : (l.take i).find? q with
  | none =>
    rw [eq_comm, List.find?_eq_none]
    exact fun a ha hp => List.find?_eq_none.1 hq a ha (hpq a (List.mem_of_mem_take ha) hp)
  | some a =>
    have hfirst : l.find? q = some a := by
      rw [← List.take_append_drop i l, List.find?_append, hq, Option.some_or]
    obtain ⟨-, front, back, hl, hfront⟩ := List.find?_eq_some_iff_append.1 hq
    refine (List.find?_eq_some_iff_append.2 ⟨h a hfirst, front, back, hl, fun b hb => ?_⟩).symm
    have hb' : b ∈ l := List.mem_of_mem_take (hl ▸ List.mem_append_left _ hb)
    rw [Bool.not_eq_true', ← Bool.not_eq_true]
    intro hp
    have hnot := hfront b hb
    rw [hpq b hb' hp] at hnot
    exact absurd hnot nofun

theorem repeatWarnings_eq_of_not_aliasFirst (hds : ∀ d ∈ ds, KeepsWritten d)
    (h : ¬ AliasFirst ds) : repeatWarnings reachedPin? ds = repeatWarnings writtenPin? ds := by
  refine List.filterMap_congr ?_
  rintro ⟨d, i⟩ hd
  have hmem : d ∈ ds := List.mem_of_getElem? (List.mk_mem_zipIdx_iff_getElem?.1 hd)
  dsimp only
  unfold repeatWarning?
  cases hw : writtenPin? d with
  | none => rfl
  | some pin =>
    have hfind : (ds.take i).find? (reachedPin? · = some pin) =
        (ds.take i).find? (writtenPin? · = some pin) := by
      refine find?_take_eq (fun e he hp => ?_) (fun first hfirst => ?_) i
      · exact decide_eq_true ((hds e he).reaches (of_decide_eq_true hp))
      · refine decide_eq_true (Classical.byContradiction fun hne => ?_)
        exact h ⟨pin, first, hfirst, hne, d, hmem, hw⟩
    dsimp only [Option.bind_eq_bind, Option.bind_some]
    rw [hfind]

/-- A define that writes the pin comes behind the alias that is the first to come to it. -/
theorem find?_front_of_writes {first : Define} {front back : List Define} (hd : KeepsWritten d)
    (hw : writtenPin? d = some pin) (hne : writtenPin? first ≠ some pin)
    (h : (front ++ d :: back).find? (reachedPin? · = some pin) = some first) :
    front.find? (reachedPin? · = some pin) = some first := by
  rw [List.find?_append] at h
  cases hf : front.find? (reachedPin? · = some pin) with
  | some e =>
    rw [hf, Option.some_or] at h
    exact h
  | none =>
    have hreaches : decide (reachedPin? d = some pin) = true := decide_eq_true (hd.reaches hw)
    rw [hf, Option.none_or, List.find?_cons, hreaches] at h
    exact absurd (Option.some.inj h ▸ hw) hne

theorem not_aliasFirst_of_repeatWarnings_eq (hn : (ds.map Define.name).Nodup)
    (hds : ∀ d ∈ ds, KeepsWritten d)
    (h : repeatWarnings reachedPin? ds = repeatWarnings writtenPin? ds) : ¬ AliasFirst ds := by
  rintro ⟨pin, first, hfirst, hne, d, hd, hw⟩
  obtain ⟨front, back, hfront⟩ := List.append_of_mem hd
  have hwarned :
      ⟨.sharedPin first.name d.name pin, d.location⟩ ∈ repeatWarnings reachedPin? ds := by
    refine mem_repeatWarnings_iff.2 ⟨front.length, d, by simp [hfront],
      repeatWarning?_eq_some_iff.2 ⟨pin, first, hw, ?_, rfl⟩⟩
    rw [hfront, List.take_left]
    exact find?_front_of_writes (hds d hd) hw hne (hfront ▸ hfirst)
  -- to be named by the other list, the alias would have to write the pin
  rw [h, mem_repeatWarnings_iff] at hwarned
  obtain ⟨i, d', -, hd'⟩ := hwarned
  obtain ⟨pin', first', -, hfind, hcause⟩ := repeatWarning?_eq_some_iff.1 hd'
  obtain ⟨hname, -, rfl⟩ := Issue.sharedPin.inj (congrArg Located.cause hcause)
  have hwrites : writtenPin? first' = some pin := by
    simpa using List.find?_some hfind
  have hsame : first = first' := List.inj_on_of_nodup_map hn (List.mem_of_find?_eq_some hfirst)
    (List.mem_of_mem_take (List.mem_of_find?_eq_some hfind)) hname
  exact hne (hsame ▸ hwrites)

/-- The audit warns of every define that writes a pin which one in front of it comes to, be it
through an alias, and names the first of these. These are the warnings for repeated writings of a
pin, but where an alias is the first to come to a pin that is written. -/
theorem sharedPins_warnings (calls : List Call) (chip : Chip) (schema : Schema) :
    (definesFindings (after calls) chip schema).warnings =
        repeatWarnings reachedPin? (after calls).defines.entries ∧
      ((definesFindings (after calls) chip schema).warnings =
          repeatWarnings writtenPin? (after calls).defines.entries ↔
        ¬ AliasFirst (after calls).defines.entries) := by
  have hkept := keepsWritten_after calls
  have hwarnings : (definesFindings (after calls) chip schema).warnings =
      repeatWarnings reachedPin? (after calls).defines.entries := sharedPins_eq hkept
  refine ⟨hwarnings, ?_⟩
  rw [hwarnings]
  exact ⟨not_aliasFirst_of_repeatWarnings_eq (after calls).defines.nodup_names hkept,
    repeatWarnings_eq_of_not_aliasFirst hkept⟩

/-- A pin with a name of its own, an alias of it, and a second define that writes it. -/
def aliasedPin : List Call :=
  [.define "LED" (some "5") default, .define "A_PIN" (some "LED") default,
    .define "B_PIN" (some "5") default]

/-- So an alias can be named in a warning, with the only define that writes the pin. -/
theorem alias_named_in_warning :
    ¬ ∀ (calls : List Call) (chip : Chip) (schema : Schema),
      (definesFindings (after calls) chip schema).warnings =
        repeatWarnings writtenPin? (after calls).defines.entries := by
  intro h
  have hwarnings := h aliasedPin .rp2040 ⟨[5], ∅⟩
  have hfound : (definesFindings (after aliasedPin) .rp2040 ⟨[5], ∅⟩).warnings =
      [⟨.sharedPin "A_PIN" "B_PIN" 5, default⟩] := by
    decide +kernel
  have hexpected : repeatWarnings writtenPin? (after aliasedPin).defines.entries = [] := by
    decide +kernel
  rw [hfound, hexpected] at hwarnings
  exact absurd hwarnings nofun

end BoardLint.Audit
