import BoardLint.Audit.Defines
import BoardLint.Proofs.Symbols.FirstCalls

/-!
# The order of defines

What is wrong with the defines of a board does not depend on the order in which they were made. Each
check looks at its own define, and finds others by their names alone (`defineErrors_congr`). What is
left out later is an error that repeats one which stays, whichever of them comes first: two errors
on one instance are the same error (`Consistent`), so to leave out all but one of them is a matter
of counting (`count_reportOnce_of_invalid`).
-/

namespace BoardLint

/-- Tables that hold the same entries find the same by name. -/
theorem Table.get?_eq_of_perm {α : Type} [Named α] {t t' : Table α}
    (h : t.entries.Perm t'.entries) (name : String) : t'.get? name = t.get? name := by
  ext e
  rw [get?_eq_some_iff, get?_eq_some_iff, h.mem_iff]

namespace Audit

variable {s s' : Symbols} {chip : Chip} {schema : Schema} {d : Define} {e : Located Issue}
  {es es' : List (Located Issue)} {reported : List String} {name : String}

/-! ## Errors on instances -/

/-- The instance that an error calls invalid, if it is such an error. -/
def invalidInstance? (e : Located Issue) : Option String :=
  match e.cause with
  | .invalidInstance name _ => some name
  | _ => none

theorem reportOnce_cons_of_other (he : invalidInstance? e = none) (reported : List String)
    (es : List (Located Issue)) :
    reportOnce reported (e :: es) = e :: reportOnce reported es := by
  unfold invalidInstance? at he
  split at he
  · exact absurd he (Option.some_ne_none _)
  · next hother =>
    rw [reportOnce]
    split
    · next hcause => exact (hother _ _ hcause).elim
    · rfl

theorem reportOnce_cons_of_invalid (he : invalidInstance? e = some name) (reported : List String)
    (es : List (Located Issue)) :
    reportOnce reported (e :: es) =
      if name ∈ reported then reportOnce reported es
      else e :: reportOnce (name :: reported) es := by
  unfold invalidInstance? at he
  split at he
  · next hcause =>
    obtain rfl := Option.some.inj he
    rw [reportOnce, hcause]
  · exact absurd he.symm (Option.some_ne_none name)

/-- Errors on the same instance are the same. -/
def Consistent (es : List (Located Issue)) : Prop :=
  ∀ e ∈ es, ∀ e' ∈ es, ∀ name,
    invalidInstance? e = some name → invalidInstance? e' = some name → e = e'

theorem Consistent.tail (h : Consistent (e :: es)) : Consistent es :=
  fun a ha b hb => h a (List.mem_cons_of_mem e ha) b (List.mem_cons_of_mem e hb)

/-! ## What is left out -/

/-- An error that is not on an instance is never left out. -/
theorem count_reportOnce_of_other (he : invalidInstance? e = none) :
    (reportOnce reported es).count e = es.count e := by
  induction es generalizing reported with
  | nil => rfl
  | cons x es ih =>
    cases hx : invalidInstance? x with
    | none => rw [reportOnce_cons_of_other hx, List.count_cons, List.count_cons, ih]
    | some n =>
      have hne : x ≠ e := by
        rintro rfl
        exact absurd (hx.symm.trans he) (Option.some_ne_none n)
      rw [reportOnce_cons_of_invalid hx, List.count_cons_of_ne hne]
      split
      · exact ih
      · rw [List.count_cons_of_ne hne, ih]

/-- An error on an instance that has not been reported stays once, however often it is made. -/
theorem count_reportOnce_of_invalid (h : Consistent es) (he : invalidInstance? e = some name) :
    (reportOnce reported es).count e = if name ∈ reported then 0 else min 1 (es.count e) := by
  induction es generalizing reported with
  | nil => simp [reportOnce]
  | cons x es ih =>
    cases hx : invalidInstance? x with
    | none =>
      have hne : x ≠ e := by
        rintro rfl
        exact absurd (he.symm.trans hx) (Option.some_ne_none name)
      rw [reportOnce_cons_of_other hx, List.count_cons_of_ne hne, List.count_cons_of_ne hne,
        ih h.tail]
    | some n =>
      rw [reportOnce_cons_of_invalid hx]
      by_cases hxe : x = e
      · subst hxe
        obtain rfl : n = name := Option.some.inj (hx.symm.trans he)
        split
        · next hn => rw [ih h.tail, if_pos hn]
        · rw [List.count_cons_self, List.count_cons_self, ih h.tail, if_pos List.mem_cons_self]
          omega
      · rw [List.count_cons_of_ne hxe]
        split
        · exact ih h.tail
        · rw [List.count_cons_of_ne hxe, ih h.tail]
          by_cases hn : name = n
          · -- of two errors on this instance the other one would be `x` too
            subst hn
            have hnone : es.count e = 0 := List.count_eq_zero.2 fun hmem =>
              hxe (h x List.mem_cons_self e (List.mem_cons_of_mem x hmem) name hx he)
            rw [hnone]
            simp
          · simp [hn]

theorem reportOnce_perm (hc : Consistent es) (h : es.Perm es') :
    (reportOnce [] es).Perm (reportOnce [] es') := by
  have hc' : Consistent es' := fun a ha b hb => hc a (h.mem_iff.2 ha) b (h.mem_iff.2 hb)
  rw [List.perm_iff_count]
  intro e
  cases he : invalidInstance? e with
  | none => rw [count_reportOnce_of_other he, count_reportOnce_of_other he, h.count_eq]
  | some name =>
    rw [count_reportOnce_of_invalid hc he, count_reportOnce_of_invalid hc' he, h.count_eq]

/-- Each instance is called invalid once at most, and not at all if it has been before. -/
theorem countP_reportOnce_le (es : List (Located Issue)) (reported : List String)
    (name : String) :
    (reportOnce reported es).countP (invalidInstance? · = some name) ≤
      if name ∈ reported then 0 else 1 := by
  induction es generalizing reported with
  | nil => simp [reportOnce]
  | cons x es ih =>
    cases hx : invalidInstance? x with
    | none =>
      rw [reportOnce_cons_of_other hx, List.countP_cons_of_neg (by simp [hx])]
      exact ih reported
    | some n =>
      rw [reportOnce_cons_of_invalid hx]
      split
      · exact ih reported
      · next hn =>
        have hrest := ih (n :: reported)
        by_cases hname : n = name
        · subst hname
          rw [if_pos List.mem_cons_self] at hrest
          rw [List.countP_cons_of_pos (by simp [hx]), if_neg hn]
          omega
        · rw [List.countP_cons_of_neg (by simp [hx, hname])]
          simpa [Ne.symm hname] using hrest

/-! ## Checks of a define -/

/-- A check of one define finds others by their names. -/
theorem defineErrors_congr (h : ∀ name, s'.lookup name = s.lookup name) (chip : Chip)
    (schema : Schema) (d : Define) :
    defineErrors s' chip schema d = defineErrors s chip schema d := by
  have hlookup : s'.lookup = s.lookup := funext h
  have hdefined : s'.isDefined = s.isDefined := by
    funext name
    rw [Symbols.isDefined, Symbols.isDefined, Table.contains_eq_isSome, Table.contains_eq_isSome]
    exact congrArg Option.isSome (h name)
  simp only [defineErrors, functionPinErrors, instanceErrors, requiredErrors, oneOfErrors, hlookup,
    hdefined]

theorem invalidInstance?_of_foreignErrors (he : e ∈ foreignErrors chip d) :
    invalidInstance? e = none := by
  unfold foreignErrors at he
  dsimp only at he
  split at he
  · exact List.mem_singleton.1 he ▸ rfl
  · exact absurd he List.not_mem_nil

theorem invalidInstance?_of_pinErrors (he : e ∈ pinErrors chip schema d) :
    invalidInstance? e = none := by
  unfold pinErrors at he
  split at he
  · exact List.mem_singleton.1 he ▸ rfl
  · exact List.mem_singleton.1 he ▸ rfl
  · split at he
    · exact absurd he List.not_mem_nil
    · exact List.mem_singleton.1 he ▸ rfl

theorem invalidInstance?_of_instanceErrors {interface : String}
    (he : e ∈ instanceErrors s chip schema interface d) : invalidInstance? e = none := by
  unfold instanceErrors at he
  split at he
  · exact List.mem_singleton.1 he ▸ rfl
  · split at he
    · exact absurd he List.not_mem_nil
    · rcases List.mem_append.1 he with he | he
      · obtain ⟨pin, -, rfl⟩ := List.mem_map.1 he
        rfl
      · unfold oneOfErrors at he
        dsimp only at he
        split at he
        · exact absurd he List.not_mem_nil
        · exact List.mem_singleton.1 he ▸ rfl

/-- Only here is an instance called invalid, with the value and at the place of its own define. -/
theorem eq_of_functionPinErrors {interface function : String}
    (he : e ∈ functionPinErrors s chip schema interface function d)
    (hname : invalidInstance? e = some name) :
    ∃ inst, s.lookup name = some inst ∧
      e = ⟨.invalidInstance name inst.resolved, inst.location⟩ := by
  have hother : invalidInstance? e ≠ none := by
    rw [hname]
    exact nofun
  unfold functionPinErrors at he
  split at he
  · exact absurd he List.not_mem_nil
  · split at he
    · exact absurd (List.mem_singleton.1 he ▸ rfl) hother
    · split at he
      · exact absurd (List.mem_singleton.1 he ▸ rfl) hother
      · next inst hinst =>
        split at he
        · obtain rfl := List.mem_singleton.1 he
          obtain rfl := Option.some.inj hname
          exact ⟨inst, hinst, rfl⟩
        · split at he
          · exact absurd (List.mem_singleton.1 he ▸ rfl) hother
          · split at he
            · exact absurd he List.not_mem_nil
            · exact absurd (List.mem_singleton.1 he ▸ rfl) hother
          · exact absurd he List.not_mem_nil

theorem eq_of_defineErrors (he : e ∈ defineErrors s chip schema d)
    (hname : invalidInstance? e = some name) :
    ∃ inst, s.lookup name = some inst ∧
      e = ⟨.invalidInstance name inst.resolved, inst.location⟩ := by
  have hother : invalidInstance? e ≠ none := by
    rw [hname]
    exact nofun
  unfold defineErrors at he
  rcases List.mem_append.1 he with he | he
  · rcases List.mem_append.1 he with he | he
    · exact absurd (invalidInstance?_of_foreignErrors he) hother
    · split at he
      · exact absurd (invalidInstance?_of_pinErrors he) hother
      · exact absurd he List.not_mem_nil
  · split at he
    · exact eq_of_functionPinErrors he hname
    · exact absurd (invalidInstance?_of_instanceErrors he) hother
    · exact absurd he List.not_mem_nil

theorem consistent_defineErrors (ds : List Define) :
    Consistent (ds.flatMap (defineErrors s chip schema)) := by
  intro e he e' he' name hname hname'
  obtain ⟨d, -, hd⟩ := List.mem_flatMap.1 he
  obtain ⟨d', -, hd'⟩ := List.mem_flatMap.1 he'
  obtain ⟨inst, hinst, rfl⟩ := eq_of_defineErrors hd hname
  obtain ⟨inst', hinst', rfl⟩ := eq_of_defineErrors hd' hname'
  obtain rfl := Option.some.inj (hinst.symm.trans hinst')
  rfl

/-- Two boards with the same defines, in whatever order, have the same errors, in some order; and no
instance is called invalid twice, however many pins refer to it. -/
theorem definesFindings_errors_perm (h : s.defines.entries.Perm s'.defines.entries) (chip : Chip)
    (schema : Schema) :
    (definesFindings s chip schema).errors.Perm (definesFindings s' chip schema).errors ∧
      ∀ name,
        (definesFindings s chip schema).errors.countP (invalidInstance? · = some name) ≤ 1 := by
  have hlookup : ∀ name, s'.lookup name = s.lookup name := Table.get?_eq_of_perm h
  have hchecks : defineErrors s' chip schema = defineErrors s chip schema :=
    funext (defineErrors_congr hlookup chip schema)
  constructor
  · unfold definesFindings
    rw [hchecks]
    exact reportOnce_perm (consistent_defineErrors _) (h.flatMap_right _)
  · exact fun name => countP_reportOnce_le _ [] name

/-- The define of an instance that its interface has not. -/
def strayInstance : Define := ⟨"PICO_DEFAULT_UART", some (.int 7), some (.int 7), default⟩

/-- Two pins that refer to this instance. -/
def strayPins : List Define :=
  [⟨"PICO_DEFAULT_UART_TX_PIN", some (.int 0), some (.int 0), default⟩,
    ⟨"PICO_DEFAULT_UART_RX_PIN", some (.int 9), some (.int 9), default⟩]

/-- The instance first, then its pins. -/
def instanceFirst : Symbols := { defines := .ofEntries (strayInstance :: strayPins) }

/-- The pins first, in the other order, and the instance last. -/
def instanceLast : Symbols :=
  { defines := .ofEntries (strayInstance :: strayPins).reverse }

/-- A schema with two pins and one interface, of which there is a single instance. -/
def singleUart : Schema where
  pins := [0, 1]
  interfaces := (∅ : Std.TreeMap String Interface).insert "UART"
    ⟨(∅ : Std.TreeMap Nat Functions).insert 0 ∅, none⟩

/-- Both pins refer to the missing instance; one of the two errors is left out in either order. -/
theorem definesFindings_errors_perm_reverse :
    instanceFirst.defines.entries.Perm instanceLast.defines.entries ∧
      ((definesFindings instanceFirst .rp2040 singleUart).errors.map Located.cause =
          [.invalidInstance "PICO_DEFAULT_UART" (some (.int 7)),
            .invalidPin "PICO_DEFAULT_UART_RX_PIN" 9 .rp2040] ∧
        (definesFindings instanceLast .rp2040 singleUart).errors.map Located.cause =
          [.invalidPin "PICO_DEFAULT_UART_RX_PIN" 9 .rp2040,
            .invalidInstance "PICO_DEFAULT_UART" (some (.int 7))]) ∧
      (definesFindings instanceFirst .rp2040 singleUart).errors.Perm
        (definesFindings instanceLast .rp2040 singleUart).errors ∧
      ∀ name, (definesFindings instanceFirst .rp2040 singleUart).errors.countP
        (invalidInstance? · = some name) ≤ 1 := by
  have hperm : instanceFirst.defines.entries.Perm instanceLast.defines.entries := by
    rw [instanceFirst, instanceLast, Table.entries_ofEntries (by decide),
      Table.entries_ofEntries (by decide)]
    exact (List.reverse_perm _).symm
  refine ⟨hperm, ?_, definesFindings_errors_perm hperm .rp2040 singleUart⟩
  decide +kernel

end Audit

end BoardLint
