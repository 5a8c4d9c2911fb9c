import BoardLint.Proofs.Check.Complete

/-!
# Stricter flags

A flag asks for more, and takes nothing back. Flags matter at two places only: an audit that can be
made asks for the suggestion at its end, and the conclusion weighs warnings like errors. All that
comes before is the same under all flags (`check_cases`), so more flags only lengthen the list of
errors that the conclusion weighs (`weighed_sublist`). `check_stricter` says what follows for the
outcome of a check.
-/

namespace BoardLint

open Audit

/-- Flags are compared one by one: all that `f` asks for, `g` asks for too. -/
instance : LE Flags where
  le f g := f.denyWarnings ≤ g.denyWarnings ∧ f.requireSuggestion ≤ g.requireSuggestion

instance (f g : Flags) : Decidable (f ≤ g) := inferInstanceAs (Decidable (_ ∧ _))

/-- How the outcome may change when flags are added. -/
structure Stricter (lax strict : Except (Failure Issue) Report) : Prop where
  /-- A fatal failure stays what it is, and none comes up. -/
  fatal : ∀ failure, failure.severity = .fatal → (lax = .error failure ↔ strict = .error failure)
  /-- What is still accepted was accepted before, with the same report. -/
  accepted : ∀ report, strict = .ok report → lax = .ok report
  /-- The errors of a failure stay, in their order. -/
  errors : ∀ failure failure', lax = .error failure → strict = .error failure' →
    failure.errors.Sublist failure'.errors

theorem Stricter.refl (outcome : Except (Failure Issue) Report) : Stricter outcome outcome where
  fatal _ _ := Iff.rfl
  accepted _ h := h
  errors failure failure' h h' := by
    obtain rfl := Except.error.inj (h.symm.trans h')
    exact List.Sublist.refl _

variable {f g : Flags} {chip : Chip} {found found' : Findings Issue}

/-! ## Conclusions -/

/-- What the conclusion weighs: errors, and warnings if they are denied. -/
def weighed (flags : Flags) (found : Findings Issue) : List (Located Issue) :=
  found.errors ++ if flags.denyWarnings then found.warnings else []

/-- A conclusion accepts a header if nothing is weighed, and otherwise rejects it for all that is
weighed. -/
theorem conclude_eq (f : Flags) (chip : Chip) (found : Findings Issue) :
    conclude f chip found =
      if weighed f found = [] then .ok ⟨chip, found.warnings⟩
      else .error (.rejected ⟨weighed f found, if f.denyWarnings then [] else found.warnings⟩) := by
  obtain ⟨errors, warnings⟩ := found
  unfold conclude weighed
  cases f.denyWarnings with
  | false => cases errors <;> simp
  | true => cases errors <;> cases warnings <;> simp [Findings.denyWarnings]

theorem conclude_eq_ok_iff {report : Report} :
    conclude f chip found = .ok report ↔
      weighed f found = [] ∧ report = ⟨chip, found.warnings⟩ := by
  rw [conclude_eq]
  split
  · next h => simp [h, eq_comm]
  · next h => simp [h]

theorem of_conclude_eq_error {failure : Failure Issue}
    (h : conclude f chip found = .error failure) :
    failure.severity = .rejected ∧ failure.errors = weighed f found := by
  rw [conclude_eq] at h
  split at h
  · cases h
  · obtain rfl := Except.error.inj h
    exact ⟨rfl, rfl⟩

theorem weighed_sublist (h : f ≤ g) (herrors : found.errors.Sublist found'.errors)
    (hwarnings : found.warnings = found'.warnings) :
    (weighed f found).Sublist (weighed g found') := by
  refine herrors.append ?_
  split
  · next hdeny => rw [if_pos (h.1 hdeny), hwarnings]
  · exact List.nil_sublist _

/-- A conclusion that weighs more errors is a stricter one. -/
theorem conclude_stricter (h : (weighed f found).Sublist (weighed g found'))
    (hwarnings : found.warnings = found'.warnings) (chip : Chip) :
    Stricter (conclude f chip found) (conclude g chip found') where
  fatal failure hfatal := by
    refine iff_of_false (fun hlax => ?_) fun hstrict => ?_
    · cases hfatal.symm.trans (of_conclude_eq_error hlax).1
    · cases hfatal.symm.trans (of_conclude_eq_error hstrict).1
  accepted report hstrict := by
    obtain ⟨hnone, rfl⟩ := conclude_eq_ok_iff.1 hstrict
    rw [hnone] at h
    exact conclude_eq_ok_iff.2 ⟨List.sublist_nil.1 h, by rw [hwarnings]⟩
  errors failure failure' hlax hstrict := by
    rw [(of_conclude_eq_error hlax).2, (of_conclude_eq_error hstrict).2]
    exact h

/-! ## Checks -/

theorem warnings_markersFindings (b : Board) (flags : Flags) :
    (markersFindings b flags).warnings = [] := by
  simp [markersFindings]

/-- More flags ask for more of the markers. -/
theorem markersFindings_sublist (h : f ≤ g) (b : Board) :
    (markersFindings b f).errors.Sublist (markersFindings b g).errors := by
  simp only [markersFindings, Findings.errors_append, Findings.errors_errorIf]
  refine List.Sublist.append_left ?_ _
  by_cases hmissing : f.requireSuggestion = true ∧ ¬ b.markers.suggestion = true
  · rw [if_pos hmissing, if_pos ⟨h.2 hmissing.1, hmissing.2⟩]
  · rw [if_neg hmissing]
    exact List.nil_sublist _

/-- An audit fails whatever the flags are, or else asks for the markers at its end. -/
theorem audit_cases (decode : Schema.Document.Reader) (disk : Disk) (sdk : Path) (b : Board)
    (found : Findings Issue) :
    (∃ failure, ∀ flags, audit decode disk ⟨sdk, flags⟩ b found = .error failure) ∨
    ∃ chip all, ∀ flags,
      audit decode disk ⟨sdk, flags⟩ b found = .ok (chip, all ++ markersFindings b flags) := by
  unfold audit
  rcases identify b with ⟨_ | chip, more⟩
  · exact .inl ⟨_, fun _ => rfl⟩
  · dsimp only
    cases Schema.load decode disk (chip.schemaPath sdk) with
    | error e => exact .inl ⟨_, fun _ => rfl⟩
    | ok schema => exact .inr ⟨chip, _, fun _ => rfl⟩

/-- A check fails whatever the flags are, or else concludes from findings that end with those of
the markers. -/
theorem check_cases (decode : Schema.Document.Reader) (disk : Disk) (header sdk : Path) :
    (∃ failure, ∀ flags, check decode disk header ⟨sdk, flags⟩ = .error failure) ∨
    ∃ b chip all, ∀ flags,
      check decode disk header ⟨sdk, flags⟩ =
        conclude flags chip (all ++ markersFindings b flags) := by
  unfold check
  cases scan disk header with
  | error halt => exact .inl ⟨_, fun _ => rfl⟩
  | ok result =>
    obtain ⟨b, found⟩ := result
    dsimp only
    rcases audit_cases decode disk sdk b found with ⟨failure, hfailure⟩ | ⟨chip, all, hall⟩
    · exact .inl ⟨failure, fun flags => by rw [hfailure flags]⟩
    · exact .inr ⟨b, chip, all, fun flags => by rw [hall flags]⟩

/-- With more flags the outcome of a check becomes stricter, and changes in no other way. -/
theorem check_stricter (decode : Schema.Document.Reader) (disk : Disk) (header sdk : Path)
    (h : f ≤ g) :
    Stricter (check decode disk header ⟨sdk, f⟩) (check decode disk header ⟨sdk, g⟩) := by
  rcases check_cases decode disk header sdk with ⟨failure, hfailure⟩ | ⟨b, chip, all, hall⟩
  · rw [hfailure f, hfailure g]
    exact .refl _
  · rw [hall f, hall g]
    have hwarnings : ∀ flags, (all ++ markersFindings b flags).warnings = all.warnings := by
      intro flags
      rw [Findings.warnings_append, warnings_markersFindings, List.append_nil]
    have herrors : (all ++ markersFindings b f).errors.Sublist
        (all ++ markersFindings b g).errors := by
      rw [Findings.errors_append, Findings.errors_append]
      exact (markersFindings_sublist h b).append_left _
    have hsame := (hwarnings f).trans (hwarnings g).symm
    exact conclude_stricter (weighed_sublist h herrors hsame) hsame chip

/-- A header for the host that gives one define twice, and does not suggest how to include it. -/
def unsuggested : String :=
  "#ifndef _BOARDS_NONE_H\n#define _BOARDS_NONE_H\n#define A 1\n#define A 1\n#endif\n"

/-- The disk with this header and with the schema that it is checked against. -/
def unsuggestedDisk : Disk :=
  Snapshot.disk [(⟨"boards/none.h"⟩, .ok unsuggested),
    (Chip.rp2040.schemaPath ⟨"."⟩, .ok "\x7b\"pins\":[],\"interfaces\":\x7b\x7d\x7d")]

/-- Is this a failure with so many errors? -/
def failsWith (n : Nat) : Except (Failure Issue) Report → Bool
  | .error failure => failure.errors.length == n
  | .ok _ => false

theorem exists_of_failsWith {n : Nat} {outcome : Except (Failure Issue) Report}
    (h : failsWith n outcome = true) : ∃ failure, outcome = .error failure ∧
      failure.errors.length = n := by
  cases outcome with
  | error failure => exact ⟨failure, rfl, beq_iff_eq.1 h⟩
  | ok report => exact absurd h nofun

theorem failsWith_unsuggested (suggestion : Bool) :
    failsWith (if suggestion then 2 else 1)
      (check Schema.Document.ofText unsuggestedDisk ⟨"boards/none.h"⟩
        ⟨⟨"."⟩, ⟨true, suggestion⟩⟩) = true := by
  have hr : unsuggestedDisk.read ⟨"boards/none.h"⟩ = .ok unsuggested := rfl
  rw [check, scan, hr]
  dsimp only
  rw [Scan.scanSource_eq]
  cases suggestion <;> decide +kernel

/-- The repeated define is the one error where warnings are denied, and comes second where the
suggestion is asked for too. -/
theorem check_stricter_unsuggested :
    (⟨true, false⟩ : Flags) ≤ ⟨true, true⟩ ∧ ∃ failure failure',
      check Schema.Document.ofText unsuggestedDisk ⟨"boards/none.h"⟩ ⟨⟨"."⟩, ⟨true, false⟩⟩ =
        .error failure ∧
      check Schema.Document.ofText unsuggestedDisk ⟨"boards/none.h"⟩ ⟨⟨"."⟩, ⟨true, true⟩⟩ =
        .error failure' ∧
      failure.errors.length = 1 ∧ failure'.errors.length = 2 ∧
      failure.errors.Sublist failure'.errors := by
  have hle : (⟨true, false⟩ : Flags) ≤ ⟨true, true⟩ := by decide
  obtain ⟨failure, hlax, hone⟩ := exists_of_failsWith (failsWith_unsuggested false)
  obtain ⟨failure', hstrict, htwo⟩ := exists_of_failsWith (failsWith_unsuggested true)
  exact ⟨hle, failure, failure', hlax, hstrict, hone, htwo,
    (check_stricter Schema.Document.ofText unsuggestedDisk ⟨"boards/none.h"⟩ ⟨"."⟩ hle).errors
      _ _ hlax hstrict⟩

end BoardLint
