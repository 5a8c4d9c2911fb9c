import BoardLint.Audit.Identify

/-!
# Platforms and what goes with them

What a board has to set so that its chip can be told, and so that nothing is wrong with what it sets
(`identify_of_settings`), said of its settings and defines by their names. A setting and its define
are compared by value: the written one of the setting, the resolved one of the define. That a board
which has to support the older stepping sets it to 1 in both places is asked for nowhere in one
piece; it follows from two checks, of which one makes the two equal and the other looks at the
define.
-/

namespace BoardLint

/-- A number is written with digits, and perhaps a minus. -/
theorem isDigit_of_mem_toString {n : Int} {c : Char} (h : c ∈ (toString n).toList) :
    c.isDigit = true ∨ c = '-' := by
  have hdigits : ∀ {k : Nat}, c ∈ k.repr.toList → c.isDigit = true := fun hc =>
    Nat.isDigit_of_mem_toDigits (by decide) (by decide) (Nat.toList_repr ▸ hc)
  rw [Int.toString_eq_repr, Int.repr_eq_if] at h
  split at h
  · exact .inl (hdigits h)
  · rw [String.toList_append, List.mem_append] at h
    rcases h with h | h
    · exact .inr (List.mem_singleton.1 h)
    · exact .inl (hdigits h)

/-- No number is written like a platform. -/
theorem toString_eq_platform_iff {v : Value} {f : Family} :
    toString v = f.platform ↔ v = .text f.platform := by
  cases v with
  | int n =>
    refine iff_of_false (fun h => ?_) nofun
    have hr : 'r' ∈ (toString n).toList := by
      rw [← Value.toString_int, h]
      cases f <;> decide
    rcases isDigit_of_mem_toString hr with hr | hr <;> exact absurd hr (by decide)
  | text s => simp

namespace Audit

variable {b : Board} {name : String} {f : Family} {v : Value}

/-- A platform is read back as its family. -/
theorem platform_injective : Function.Injective Family.platform := fun _ _ h =>
  Option.some.inj <| (Family.ofPlatform?_eq_some_iff.2 rfl).symm.trans
    (Family.ofPlatform?_eq_some_iff.2 h.symm)

/-! ## What a board sets -/

/-- The board sets this platform. -/
def SetsPlatform (b : Board) (platform : String) : Prop :=
  ∃ setting, b.symbols.setting .fixed "PICO_PLATFORM" = some setting ∧
    setting.value = .text platform

/-- The fallback setting of this name has the value. -/
def FallsBackTo (b : Board) (name : String) (v : Value) : Prop :=
  ∃ setting, b.symbols.setting .fallback name = some setting ∧ setting.value = v

/-- The define of this name is resolved to the value. -/
def ResolvesTo (b : Board) (name : String) (v : Value) : Prop :=
  ∃ d, b.symbols.lookup name = some d ∧ d.resolved = some v

/-- The fallback setting and the define of this name are both there, with the same value. -/
def Paired (b : Board) (name : String) : Prop := ∃ v, FallsBackTo b name v ∧ ResolvesTo b name v

/-- Neither of them is there. -/
def Absent (b : Board) (name : String) : Prop :=
  b.symbols.setting .fallback name = none ∧ b.symbols.lookup name = none

/-- The board has a chip of the second family, and is not the development board. -/
def NeedsStepping (b : Board) : Prop :=
  SetsPlatform b "rp2350" ∧ b.fileName ≠ "amethyst_fpga.h"

theorem SetsPlatform.unique {p q : String} (hp : SetsPlatform b p) (hq : SetsPlatform b q) :
    p = q := by
  obtain ⟨setting, hs, hv⟩ := hp
  obtain ⟨setting', hs', hv'⟩ := hq
  obtain rfl := Option.some.inj (hs.symm.trans hs')
  exact Value.text.inj (hv.symm.trans hv')

theorem resolved?_eq_some_iff : resolved? b.symbols name = some v ↔ ResolvesTo b name v :=
  Option.bind_eq_some_iff

/-! ## The chip -/

theorem familyOf_eq_ok_iff : familyOf b = .ok f ↔ SetsPlatform b f.platform := by
  unfold familyOf SetsPlatform platformName
  cases b.symbols.setting .fixed "PICO_PLATFORM" with
  | none => simp
  | some platform =>
    simp only [Option.some.injEq, exists_eq_left', ← toString_eq_platform_iff]
    rw [eq_comm (b := f.platform), ← Family.ofPlatform?_eq_some_iff]
    cases Family.ofPlatform? (toString platform.value) <;> simp

theorem chipOf_of_variant (h : ResolvesTo b "PICO_RP2350A" (.int 1)) :
    chipOf b.symbols .rp2350 = .rp2350A :=
  if_pos (resolved?_eq_some_iff.2 h)

theorem chipOf_of_no_variant (h : ¬ ResolvesTo b "PICO_RP2350A" (.int 1)) :
    chipOf b.symbols .rp2350 = .rp2350B :=
  if_neg fun hr => h (resolved?_eq_some_iff.1 hr)

theorem identify_of_error {e : Located Issue} (h : b.fileName ≠ hostHeader)
    (he : familyOf b = .error e) : identify b = (none, .error e.cause e.location) := by
  unfold identify
  rw [if_neg h, he]

theorem identify_of_ok (h : b.fileName ≠ hostHeader) (hf : familyOf b = .ok f) :
    identify b = (some (chipOf b.symbols f),
      variantFindings b.symbols f ++ companionFindings b flashName true ++
        companionFindings b steppingName (needsStepping b f) ++ steppingFindings b f) := by
  unfold identify
  rw [if_neg h, hf]

/-! ## Checks one by one -/

@[simp] theorem errors_variantFindings (s : Symbols) (f : Family) :
    (variantFindings s f).errors = [] := by
  unfold variantFindings
  split
  · rfl
  · split <;> rfl

theorem companionFindings_errors_eq_nil_iff {required : Bool} :
    (companionFindings b name required).errors = [] ↔
      Paired b name ∨ required = false ∧ Absent b name := by
  unfold companionFindings Paired FallsBackTo ResolvesTo Absent
  cases hs : b.symbols.setting .fallback name with
  | none =>
    cases hd : b.symbols.lookup name with
    | none => cases required <;> simp [Findings.errors_errorIf]
    | some d => simp
  | some setting =>
    cases hd : b.symbols.lookup name with
    | none => simp
    | some d => simp [Findings.errors_errorIf, eq_comm]

theorem needsStepping_iff (hf : SetsPlatform b f.platform) :
    needsStepping b f = true ↔ NeedsStepping b := by
  unfold needsStepping NeedsStepping fpgaHeader
  rw [Bool.and_eq_true, bne_iff_ne, beq_iff_eq]
  refine and_congr_left fun _ => ⟨?_, fun h => ?_⟩
  · rintro rfl
    exact hf
  · have hplatform := hf.unique h
    cases f
    · exact absurd hplatform (by decide)
    · rfl

theorem steppingFindings_errors_eq_nil_iff :
    (steppingFindings b f).errors = [] ↔ (needsStepping b f = true →
      ∀ d, b.symbols.lookup steppingName = some d → d.resolved = some (.int 1)) := by
  unfold steppingFindings
  cases b.symbols.lookup steppingName with
  | none => simp
  | some d => simp [Findings.errors_errorIf]

/-- Where the older stepping has to be supported, the two checks together ask for a 1 in both
places. -/
theorem stepping_errors_eq_nil_iff (hf : SetsPlatform b f.platform) :
    ((companionFindings b steppingName (needsStepping b f)).errors = [] ∧
        (steppingFindings b f).errors = []) ↔
      (NeedsStepping b →
        FallsBackTo b steppingName (.int 1) ∧ ResolvesTo b steppingName (.int 1)) ∧
      (¬ NeedsStepping b → Absent b steppingName ∨ Paired b steppingName) := by
  rw [companionFindings_errors_eq_nil_iff, steppingFindings_errors_eq_nil_iff,
    ← needsStepping_iff hf]
  cases needsStepping b f with
  | false => simp [or_comm]
  | true =>
    simp only [reduceCtorEq, false_and, or_false, forall_const, not_true_eq_false, false_implies,
      and_true]
    constructor
    · rintro ⟨⟨v, hsetting, d, hd, hv⟩, hone⟩
      obtain rfl := Option.some.inj (hv.symm.trans (hone d hd))
      exact ⟨hsetting, d, hd, hv⟩
    · rintro ⟨hsetting, d, hd, hv⟩
      refine ⟨⟨.int 1, hsetting, d, hd, hv⟩, fun d' hd' => ?_⟩
      obtain rfl := Option.some.inj (hd.symm.trans hd')
      exact hv

/-- The chip of a board other than the host can be told if the platform is set to one of two, and
which chip it is follows from the platform and one define; otherwise there is a single error. If it
can be told, nothing is wrong exactly where the size of the flash memory is given in both places,
and the support for the older stepping is a 1 in both places where it is needed, and elsewhere given
in both places or in none. -/
theorem identify_of_settings (b : Board) (h : b.fileName ≠ "none.h") :
    ((identify b).1 = none ↔ ¬ SetsPlatform b "rp2040" ∧ ¬ SetsPlatform b "rp2350") ∧
    ((identify b).1 = none → (identify b).2.errors.length = 1) ∧
    (SetsPlatform b "rp2040" → (identify b).1 = some .rp2040) ∧
    (SetsPlatform b "rp2350" → ResolvesTo b "PICO_RP2350A" (.int 1) →
      (identify b).1 = some .rp2350A) ∧
    (SetsPlatform b "rp2350" → ¬ ResolvesTo b "PICO_RP2350A" (.int 1) →
      (identify b).1 = some .rp2350B) ∧
    ((identify b).1 ≠ none → ((identify b).2.errors = [] ↔
      Paired b "PICO_FLASH_SIZE_BYTES" ∧
      (NeedsStepping b → FallsBackTo b "PICO_RP2350_A2_SUPPORTED" (.int 1) ∧
        ResolvesTo b "PICO_RP2350_A2_SUPPORTED" (.int 1)) ∧
      (¬ NeedsStepping b → Absent b "PICO_RP2350_A2_SUPPORTED" ∨
        Paired b "PICO_RP2350_A2_SUPPORTED"))) := by
  cases hf : familyOf b with
  | error e =>
    have hnone : ∀ f : Family, ¬ SetsPlatform b f.platform := fun f hset =>
      absurd (hf.symm.trans (familyOf_eq_ok_iff.2 hset)) nofun
    have h2040 : ¬ SetsPlatform b "rp2040" := hnone .rp2040
    have h2350 : ¬ SetsPlatform b "rp2350" := hnone .rp2350
    rw [identify_of_error h hf]
    simp [h2040, h2350]
  | ok f =>
    have hset : SetsPlatform b f.platform := familyOf_eq_ok_iff.1 hf
    have herrors := stepping_errors_eq_nil_iff hset
    rw [identify_of_ok h hf]
    refine ⟨iff_of_false nofun fun hnone => ?_, nofun, fun h2040 => ?_, fun h2350 hvariant => ?_,
      fun h2350 hvariant => ?_, fun _ => ?_⟩
    · cases f
      · exact hnone.1 hset
      · exact hnone.2 hset
    · obtain rfl : f = .rp2040 := platform_injective (hset.unique h2040)
      rfl
    · obtain rfl : f = .rp2350 := platform_injective (hset.unique h2350)
      exact congrArg some (chipOf_of_variant hvariant)
    · obtain rfl : f = .rp2350 := platform_injective (hset.unique h2350)
      exact congrArg some (chipOf_of_no_variant hvariant)
    · rw [Findings.errors_append, Findings.errors_append, Findings.errors_append,
        errors_variantFindings, List.nil_append, List.append_eq_nil_iff, List.append_eq_nil_iff,
        and_assoc, companionFindings_errors_eq_nil_iff, herrors]
      refine and_congr_left' ?_
      exact or_iff_left fun hrequired => absurd hrequired.1 nofun

/-- A header of the second family, with a setting and a define of the same value for the flash
memory, and for the older stepping a define that is written as an alias. -/
def aliasedStepping : Board where
  source := .ofText ⟨"boards/a.h"⟩ ""
  symbols :=
    { defines := .ofEntries [⟨"PICO_RP2350A", some (.int 1), some (.int 1), default⟩,
        ⟨"PICO_FLASH_SIZE_BYTES", some (.int 4096), some (.int 4096), default⟩,
        ⟨"PICO_RP2350_A2_SUPPORTED", some (.text "PICO_RP2350A"), some (.int 1), default⟩]
      fixed := .ofEntries [⟨"PICO_PLATFORM", .text "rp2350", default⟩]
      fallbacks := .ofEntries [⟨"PICO_FLASH_SIZE_BYTES", .int 4096, default⟩,
        ⟨"PICO_RP2350_A2_SUPPORTED", .int 1, default⟩] }
  expected := .ofPath ⟨"boards/a.h"⟩
  markers := {}

theorem identify_aliasedStepping :
    aliasedStepping.fileName ≠ "none.h" ∧
      (identify aliasedStepping).1 = some .rp2350A ∧ (identify aliasedStepping).2.errors = [] := by
  have hname : aliasedStepping.fileName ≠ "none.h" := by decide +kernel
  obtain ⟨-, -, -, hchip, -, herrors⟩ := identify_of_settings aliasedStepping hname
  have hplatform : SetsPlatform aliasedStepping "rp2350" :=
    Option.map_eq_some_iff.1 (by decide +kernel)
  have hflash : Paired aliasedStepping "PICO_FLASH_SIZE_BYTES" :=
    ⟨.int 4096, Option.map_eq_some_iff.1 (by decide +kernel),
      Option.map_eq_some_iff.1 (by decide +kernel)⟩
  have hstepping : FallsBackTo aliasedStepping "PICO_RP2350_A2_SUPPORTED" (.int 1) ∧
      ResolvesTo aliasedStepping "PICO_RP2350_A2_SUPPORTED" (.int 1) :=
    ⟨Option.map_eq_some_iff.1 (by decide +kernel), Option.map_eq_some_iff.1 (by decide +kernel)⟩
  have hfirst : ResolvesTo aliasedStepping "PICO_RP2350A" (.int 1) :=
    Option.map_eq_some_iff.1 (by decide +kernel)
  have hneeded : NeedsStepping aliasedStepping := ⟨hplatform, by decide +kernel⟩
  have hone : (identify aliasedStepping).1 = some .rp2350A := hchip hplatform hfirst
  refine ⟨hname, hone, (herrors (by rw [hone]; nofun)).2 ⟨hflash, fun _ => hstepping, ?_⟩⟩
  exact fun hnone => absurd hneeded hnone

end Audit

end BoardLint
