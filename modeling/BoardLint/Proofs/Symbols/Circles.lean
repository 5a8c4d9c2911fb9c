import BoardLint.Proofs.Symbols.Alias
import Mathlib.Data.List.Induction

/-!
# Circles that are reported

A define is resolved before it is in the table, so the define that closes a circle does not see it:
to itself its own name is still unknown. What is reported is a define whose value leads into a
circle that is closed already, and of these the first one (`reportsCircle_define_iff`). It keeps no
value, and who leads to the circle through its name finds no value instead of a circle. Up to then a
define has kept no value only where the plain walk ends in none (`EmptyEnds`), which is what carries
the induction.
-/

namespace BoardLint

/-- Is it reported that a value leads back to a name? -/
def Issue.isCircular : Issue → Bool
  | circular .. => true
  | _ => false

/-- Is there a report of a value that leads back to a name? -/
def Findings.reportsCircle (f : Findings Issue) : Bool := f.errors.any (·.cause.isCircular)

namespace Findings

@[simp] theorem reportsCircle_empty : (∅ : Findings Issue).reportsCircle = false := rfl

@[simp] theorem reportsCircle_append (f g : Findings Issue) :
    (f ++ g).reportsCircle = (f.reportsCircle || g.reportsCircle) := List.any_append

end Findings

namespace Symbols

variable {t : Table Define} {v : Option Value} {s : Symbols} {calls before : List Call}
  {name : String} {raw : Option String} {l : Location}

/-! ## One call -/

@[simp] theorem reportsCircle_duplicate (space : SymbolSpace) (name : String)
    (first second : Option Value) (previous l : Location) :
    (duplicate space name first second previous l).reportsCircle = false := by
  unfold duplicate
  split <;> rfl

theorem reportsCircle_circleFindings (name : String) (l : Location)
    (result : Except (List String) (Option Value)) :
    (circleFindings name l result).reportsCircle = true ↔ ∃ chain, result = .error chain := by
  cases result with
  | ok r => simp [circleFindings]
  | error chain => exact iff_of_true rfl ⟨chain, rfl⟩

/-- A define is reported if following the values that are kept leads back to a name. -/
theorem reportsCircle_report_define :
    (s.report (.define name raw l)).reportsCircle = true ↔
      ∃ chain, s.resolve (raw.map Value.ofString) = .error chain := by
  rw [← reportsCircle_circleFindings name l, report]
  cases h : s.lookup name with
  | none => rw [define_of_new h]
  | some first =>
    rw [define_of_taken h, Findings.reportsCircle_append, reportsCircle_duplicate, Bool.or_false]

/-- Settings, and what stands in no header, have no part in circles. -/
theorem eq_define_of_reportsCircle {c : Call} (h : (s.report c).reportsCircle = true) :
    ∃ name raw l, c = .define name raw l := by
  cases c with
  | define name raw l => exact ⟨name, raw, l, rfl⟩
  | synthetic name a l => exact absurd h nofun
  | bind kind name raw l =>
    rw [report, bind_snd] at h
    cases hs : s.setting kind name with
    | none =>
      rw [hs] at h
      exact absurd h nofun
    | some first =>
      rw [hs, Option.elim_some, reportsCircle_duplicate] at h
      exact absurd h nofun

/-! ## Before the first report -/

/-- Where a define has kept no value, the plain walk ends in none. -/
def EmptyEnds (t : Table Define) : Prop :=
  ∀ name d, t.get? name = some d → d.resolved = none → EndsIn t d.value none

theorem EndsIn.mono_none {t' : Table Define} (ht : Extends t t') (h : EndsIn t v none) :
    EndsIn t' v none := ⟨walk_mono ht h.1, .none⟩

theorem EmptyEnds.insert {d : Define} (h : EmptyEnds t)
    (hd : d.resolved = none → EndsIn t d.value none) : EmptyEnds (t.insert d) :=
  of_get?_insert (P := fun e => e.resolved = none → EndsIn (t.insert d) e.value none)
    (fun name e he hn => (h name e he hn).mono_none (extends_insert t d))
    fun hn => (hd hn).mono_none (extends_insert t d)

/-- Then no value is found only where the plain walk ends in none. -/
theorem EmptyEnds.endsIn_of_follow (h : EmptyEnds t) (ht : AllFaithful t) {chain : List String}
    (hf : follow t chain v = .ok none) : EndsIn t v none := by
  fun_induction follow t chain v with
  | case1 => cases hf
  | case2 => cases hf
  | case3 chain name d hd _ ih =>
    cases hr : d.resolved with
    | none =>
      obtain ⟨hw, hend⟩ := h name d hd hr
      exact ⟨.head (.name hd) hw, hend⟩
    | some b =>
      obtain ⟨hw, hend⟩ := ih hf
      rw [hr] at hw
      exact ⟨(walk_kept ht hd hr).to_reflTransGen.trans hw, hend⟩
  | case4 chain v hv =>
    rw [Except.ok.inj hf]
    exact ⟨.refl, .none⟩

/-- Then a value that leads into a circle is found to do so. -/
theorem EmptyEnds.error_of_loops (h : EmptyEnds t) (ht : AllFaithful t) (hl : Loops t v) :
    ∃ chain, follow t [] v = .error chain := by
  cases hf : follow t [] v with
  | error chain => exact ⟨chain, rfl⟩
  | ok r =>
    cases r with
    | none =>
      obtain ⟨hw, hend⟩ := h.endsIn_of_follow ht hf
      exact absurd hend (hl.not_final hw)
    | some a =>
      obtain ⟨hw, hend⟩ := Symbols.endsIn_of_follow ht hf
      exact absurd hend (hl.not_final hw)

theorem emptyEnds_apply (h : EmptyEnds s.defines) (ht : AllFaithful s.defines) {c : Call}
    (hc : (s.report c).reportsCircle = false) : EmptyEnds (s.apply c).defines := by
  cases c with
  | define name raw l =>
    rw [apply, define_fst]
    refine h.insert fun hn => ?_
    rw [← Bool.not_eq_true, reportsCircle_report_define] at hc
    cases hr : s.resolve (raw.map Value.ofString) with
    | error chain => exact absurd ⟨chain, hr⟩ hc
    | ok r =>
      have he : (s.entry name raw l).resolved = r := by
        simp only [entry, kept, hr]
      rw [← he, hn] at hr
      exact h.endsIn_of_follow ht hr
  | synthetic name a l => exact h.insert fun hn => absurd hn (Option.some_ne_none a)
  | bind kind name raw l =>
    rw [apply, bind_fst, defines_insertSetting]
    exact h

/-- As long as no circle is reported, only defines whose plain walk ends in none keep none. -/
theorem emptyEnds_after (h : (reports calls).reportsCircle = false) :
    EmptyEnds (after calls).defines := by
  induction calls using List.reverseRecOn with
  | nil => exact fun _ _ hd => absurd hd.symm (Option.some_ne_none _)
  | append_singleton calls c ih =>
    rw [reports_concat, Findings.reportsCircle_append, Bool.or_eq_false_iff] at h
    rw [after_concat]
    exact emptyEnds_apply (ih h.1) (allFaithful_after calls) h.2

/-! ## The first report -/

/-- If no circle has been reported so far, a define is reported exactly when its value leads into a
circle of the table as it stands. -/
theorem reportsCircle_define_iff (h : (reports before).reportsCircle = false) :
    ((after before).report (.define name raw l)).reportsCircle = true ↔
      Loops (after before).defines (raw.map Value.ofString) := by
  have ht := allFaithful_after before
  rw [reportsCircle_report_define]
  constructor
  · rintro ⟨chain, hchain⟩
    exact loops_of_follow ht (by simp) hchain
  · exact (emptyEnds_after h).error_of_loops ht

/-- One of the defines has a value that leads into a circle of the table in front of it. -/
def MeetsCircle (calls : List Call) : Prop :=
  ∃ before name raw l later, calls = before ++ .define name raw l :: later ∧
    Loops (after before).defines (raw.map Value.ofString)

theorem meetsCircle_concat_iff {c : Call} :
    MeetsCircle (calls ++ [c]) ↔ MeetsCircle calls ∨ ∃ name raw l, c = .define name raw l ∧
      Loops (after calls).defines (raw.map Value.ofString) := by
  constructor
  · rintro ⟨before, name, raw, l, later, hcalls, hl⟩
    rcases List.eq_nil_or_concat later with rfl | ⟨later, c', rfl⟩
    · obtain ⟨rfl, rfl⟩ := List.append_inj' hcalls rfl |>.imp id List.head_eq_of_cons_eq
      exact .inr ⟨name, raw, l, rfl, hl⟩
    · rw [List.concat_eq_append, ← List.cons_append, ← List.append_assoc] at hcalls
      exact .inl ⟨before, name, raw, l, later, (List.append_inj' hcalls rfl).1, hl⟩
  · rintro (⟨before, name, raw, l, later, rfl, hl⟩ | ⟨name, raw, l, rfl, hl⟩)
    · exact ⟨before, name, raw, l, later ++ [c], by simp, hl⟩
    · exact ⟨calls, name, raw, l, [], rfl, hl⟩

/-- A circle is reported exactly when some define has a value that leads into a circle which is
closed already when the define is made. -/
theorem reportsCircle_iff_meetsCircle (calls : List Call) :
    (reports calls).reportsCircle = true ↔ MeetsCircle calls := by
  induction calls using List.reverseRecOn with
  | nil =>
    refine iff_of_false nofun ?_
    rintro ⟨before, name, raw, l, later, hcalls, -⟩
    simp at hcalls
  | append_singleton calls c ih =>
    rw [reports_concat, Findings.reportsCircle_append, Bool.or_eq_true, meetsCircle_concat_iff, ih]
    cases h : (reports calls).reportsCircle with
    | true =>
      have hm := ih.1 h
      exact iff_of_true (.inl hm) (.inl hm)
    | false =>
      refine or_congr_right ?_
      constructor
      · intro hc
        obtain ⟨name, raw, l, rfl⟩ := eq_define_of_reportsCircle hc
        exact ⟨name, raw, l, rfl, (reportsCircle_define_iff h).1 hc⟩
      · rintro ⟨name, raw, l, rfl, hl⟩
        exact (reportsCircle_define_iff h).2 hl

/-- A define whose value is its own name. -/
def selfNamed : List Call := [.define "A" (some "A") default]

/-- So a circle may stay without any report, as the smallest one does. -/
theorem circle_without_report :
    ¬ ∀ calls : List Call, (∀ c ∈ calls, ∃ name raw l, c = .define name raw l) →
      (∃ name, (after calls).isDefined name = true ∧
        Loops (after calls).defines (some (.text name))) →
      (reports calls).reportsCircle = true := by
  intro h
  have hvalue : ((after selfNamed).lookup "A").map Define.value = some (some (.text "A")) := by
    decide +kernel
  obtain ⟨d, hd, hv⟩ := Option.map_eq_some_iff.1 hvalue
  have hloop : Loops (after selfNamed).defines (some (.text "A")) :=
    ⟨"A", .refl, .single (hv ▸ .name hd)⟩
  have hreported := h selfNamed (by simp [selfNamed]) ⟨"A", by decide +kernel, hloop⟩
  have hsilent : (reports selfNamed).reportsCircle = false := by decide +kernel
  rw [hsilent] at hreported
  exact absurd hreported nofun

end Symbols

end BoardLint
