import BoardLint.Numeral
import BoardLint.Proofs.Directive.Readers
import Mathlib.Data.List.Forall2
import Mathlib.Data.Nat.Digits.Defs
import Mathlib.Tactic.Ring

/-!
# Which texts are integer literals

`Numeral.literal` gives for each integer the texts that write it: a sign, the mark of a base, and
digits of this base, of which the number is `Nat.ofDigits`. A decimal literal has no mark, and no
zero comes first in it unless all its digits are zeros.

No text is read in two ways. A mark has a letter at its second place that is no decimal digit
(`base_of_mem_digits`), and what follows a sign starts with a digit (`sign_of_mem_magnitude`). So
the reader, which looks for a sign, then for a mark, and takes all that is left for digits, accepts
the literals and no other text (`parse?_eq_some_iff`).
-/

namespace BoardLint.Numeral

open Text

variable {b d m : Nat} {c : Char} {cs ds : List Char} {n : Int} {negative : Bool}

/-! ## Literals -/

/-- The character writes this digit of the base, in lower or in upper case. -/
def WritesDigit (base : Nat) (c : Char) (d : Nat) : Prop := d < base ∧ c.toLower = Nat.digitChar d

/-- One or more digits that write this number, of which the last one counts least. -/
def digits (base m : Nat) : Language Char :=
  {cs | cs ≠ [] ∧
    ∃ ds, List.Forall₂ (WritesDigit base) cs ds ∧ Nat.ofDigits base ds.reverse = m}

/-- What stands in front of the digits of a base other than ten. -/
def mark : Nat → Language Char
  | 16 => lit "0x" + lit "0X"
  | 8 => lit "0o" + lit "0O"
  | 2 => lit "0b" + lit "0B"
  | _ => 0

/-- Decimal digits of this number that could not be meant for digits of base eight. -/
def decimal (m : Nat) : Language Char :=
  {cs | cs ∈ digits 10 m ∧ (cs.head? ≠ some '0' ∨ ∀ c ∈ cs, c = '0')}

/-- The literals of this number without a sign. -/
def magnitude (m : Nat) : Language Char :=
  mark 16 * digits 16 m + mark 8 * digits 8 m + mark 2 * digits 2 m + decimal m

/-- What stands in front of the magnitude. -/
def signs : Bool → Language Char
  | true => lit "-"
  | false => lit "+" + 1

/-- The literals of an integer, whose magnitude must not be too large. -/
def literal (n : Int) : Language Char :=
  {cs | ∃ negative m, cs ∈ signs negative * magnitude m ∧ m ≤ 2 ^ 63 - 1 ∧
    n = if negative then -(m : Int) else m}

/-! ## Digits -/

theorem val_le_iff {x y : Char} : x.val ≤ y.val ↔ x.toNat ≤ y.toNat := UInt32.le_iff_toNat_le

theorem toNat_toLower (c : Char) :
    c.toLower.toNat = if 65 ≤ c.toNat ∧ c.toNat ≤ 90 then c.toNat + 32 else c.toNat := by
  unfold Char.toLower
  simp only [ge_iff_le, val_le_iff]
  split
  · rename_i h
    have hz : c.val.toNat ≤ 90 := h.2
    rw [if_pos (show 65 ≤ c.toNat ∧ c.toNat ≤ 90 from h)]
    show (c.val + 32).toNat = c.val.toNat + 32
    rw [UInt32.toNat_add]
    show (c.val.toNat + 32) % 2 ^ 32 = c.val.toNat + 32
    omega
  · rename_i h
    exact (if_neg h).symm

theorem toNat_digitChar (h : d < 16) :
    (Nat.digitChar d).toNat = if d < 10 then 48 + d else 87 + d := by
  revert d
  decide

/-- The digits by their code points. -/
theorem writesDigit_iff (hb : b ≤ 16) :
    WritesDigit b c d ↔ d < b ∧
      (if 65 ≤ c.toNat ∧ c.toNat ≤ 90 then c.toNat + 32 else c.toNat) =
        if d < 10 then 48 + d else 87 + d := by
  refine and_congr_right fun hd => ?_
  rw [← Char.toNat_inj, toNat_toLower, toNat_digitChar (Nat.lt_of_lt_of_le hd hb)]

theorem digit?_eq_some_iff (hb : b ≤ 16) : digit? b c = some d ↔ WritesDigit b c d := by
  rw [writesDigit_iff hb]
  by_cases hd : d < b
  · have hzero : '0'.toNat = 48 ∧ '9'.toNat = 57 := by decide
    have hsmall : 'a'.toNat = 97 ∧ 'f'.toNat = 102 := by decide
    have hlarge : 'A'.toNat = 65 ∧ 'F'.toNat = 70 := by decide
    simp only [digit?, Option.filter_eq_some_iff, decide_eq_true_eq, hd, and_true, true_and,
      Char.le_def, val_le_iff, hzero, hsmall, hlarge]
    split_ifs <;> simp only [Option.some.injEq, false_iff] <;> omega
  · simp [digit?, Option.filter_eq_some_iff, hd]

/-- The number grows by one digit after the other. -/
theorem continue?_eq_some_iff (hb : b ≤ 16) {k : Nat} :
    continue? b k cs = some m ↔
      ∃ ds, List.Forall₂ (WritesDigit b) cs ds ∧
        k * b ^ cs.length + Nat.ofDigits b ds.reverse = m := by
  induction cs generalizing k with
  | nil => simp [continue?, List.forall₂_nil_left_iff]
  | cons c cs ih =>
    have hgrow : ∀ d (ds : List Nat), ds.length = cs.length →
        k * b ^ (c :: cs).length + Nat.ofDigits b (d :: ds).reverse =
          (k * b + d) * b ^ cs.length + Nat.ofDigits b ds.reverse := by
      intro d ds hlength
      rw [List.reverse_cons, Nat.ofDigits_append, Nat.ofDigits_singleton, List.length_reverse,
        hlength, List.length_cons]
      ring
    simp only [continue?, Option.bind_eq_some_iff, digit?_eq_some_iff hb, ih]
    constructor
    · rintro ⟨d, hd, ds, hds, rfl⟩
      exact ⟨d :: ds, .cons hd hds, hgrow d ds hds.length_eq.symm⟩
    · rintro ⟨_, hall, rfl⟩
      obtain ⟨d, ds, hd, hds, rfl⟩ := List.forall₂_cons_left_iff.1 hall
      exact ⟨d, hd, ds, hds, (hgrow d ds hds.length_eq.symm).symm⟩

theorem natural?_eq_some_iff (hb : b ≤ 16) : natural? b cs = some m ↔ cs ∈ digits b m := by
  show _ ↔ cs ≠ [] ∧ _
  unfold natural?
  cases cs with
  | nil => simp
  | cons c cs => simp [continue?_eq_some_iff hb]

theorem exists_writesDigit {ds : List Nat} (h : List.Forall₂ (WritesDigit b) cs ds) :
    ∀ c ∈ cs, ∃ d, WritesDigit b c d := by
  induction h with
  | nil => exact nofun
  | @cons c d cs ds hd _ ih =>
    intro x hx
    rcases List.mem_cons.1 hx with rfl | hx
    · exact ⟨d, hd⟩
    · exact ih x hx

theorem writesDigit_of_mem (h : cs ∈ digits b m) (hc : c ∈ cs) : ∃ d, WritesDigit b c d := by
  obtain ⟨-, ds, hds, -⟩ := h
  exact exists_writesDigit hds c hc

/-! ## Marks -/

theorem not_writesDigit (h : 57 < c.toNat) : ¬ ∃ d, WritesDigit 10 c d := by
  rintro ⟨d, hd⟩
  rw [writesDigit_iff (by decide)] at hd
  split_ifs at hd <;> omega

/-- A mark is a zero and a letter. -/
theorem of_mem_mark (h : cs ∈ mark b) :
    b ≤ 16 ∧ b ≠ 10 ∧ ∃ c, cs = ['0', c] ∧ 57 < c.toNat ∧ c.toNat < 128 := by
  unfold mark at h
  split at h
  · rcases h with rfl | rfl
    · exact ⟨by decide, by decide, 'x', by decide⟩
    · exact ⟨by decide, by decide, 'X', by decide⟩
  · rcases h with rfl | rfl
    · exact ⟨by decide, by decide, 'o', by decide⟩
    · exact ⟨by decide, by decide, 'O', by decide⟩
  · rcases h with rfl | rfl
    · exact ⟨by decide, by decide, 'b', by decide⟩
    · exact ⟨by decide, by decide, 'B', by decide⟩
  · exact absurd h (Language.notMem_zero _)

theorem base_of_mem_mark (h : cs ∈ mark b) (ds : List Char) : base (cs ++ ds) = (b, ds) := by
  unfold mark at h
  split at h
  · rcases h with rfl | rfl <;> rfl
  · rcases h with rfl | rfl <;> rfl
  · rcases h with rfl | rfl <;> rfl
  · exact absurd h (Language.notMem_zero _)

/-- A text starts with a mark, or else all of it is taken for decimal digits. -/
theorem base_cases (cs : List Char) :
    (∃ b, ∃ a ∈ mark b, ∃ ds, cs = a ++ ds) ∨ base cs = (10, cs) := by
  unfold base
  split
  · exact .inl ⟨16, _, .inl rfl, _, rfl⟩
  · exact .inl ⟨16, _, .inr rfl, _, rfl⟩
  · exact .inl ⟨8, _, .inl rfl, _, rfl⟩
  · exact .inl ⟨8, _, .inr rfl, _, rfl⟩
  · exact .inl ⟨2, _, .inl rfl, _, rfl⟩
  · exact .inl ⟨2, _, .inr rfl, _, rfl⟩
  · exact .inr rfl

/-- Decimal digits do not start with a mark. -/
theorem base_of_mem_digits (h : cs ∈ digits 10 m) : base cs = (10, cs) := by
  rcases base_cases cs with ⟨b, a, ha, ds, rfl⟩ | hbase
  · obtain ⟨-, -, c, rfl, hletter, -⟩ := of_mem_mark ha
    exact absurd (writesDigit_of_mem h (by simp)) (not_writesDigit hletter)
  · exact hbase

theorem mem_magnitude_iff :
    cs ∈ magnitude m ↔ (∃ b, cs ∈ mark b * digits b m) ∨ cs ∈ decimal m := by
  constructor
  · rintro (((h | h) | h) | h)
    · exact .inl ⟨16, h⟩
    · exact .inl ⟨8, h⟩
    · exact .inl ⟨2, h⟩
    · exact .inr h
  · rintro (⟨b, a, ha, ds, hds, rfl⟩ | h)
    · unfold mark at ha
      split at ha
      · exact .inl (.inl (.inl (Language.append_mem_mul ha hds)))
      · exact .inl (.inl (.inr (Language.append_mem_mul ha hds)))
      · exact .inl (.inr (Language.append_mem_mul ha hds))
      · exact absurd ha (Language.notMem_zero _)
    · exact .inr h

/-- A literal without a sign starts with a digit. -/
theorem starts_of_mem_magnitude (h : cs ∈ magnitude m) :
    ∃ c r d, cs = c :: r ∧ WritesDigit 10 c d := by
  rcases mem_magnitude_iff.1 h with ⟨b, a, ha, ds, -, rfl⟩ | ⟨hdigits, -⟩
  · obtain ⟨-, -, c, rfl, -⟩ := of_mem_mark ha
    exact ⟨'0', c :: ds, 0, rfl, by decide, by decide⟩
  · obtain ⟨c, r, rfl⟩ := List.exists_cons_of_ne_nil hdigits.1
    obtain ⟨d, hd⟩ := writesDigit_of_mem hdigits List.mem_cons_self
    exact ⟨c, r, d, rfl, hd⟩

/-! ## Reading -/

theorem leadingZero_eq_false_iff :
    leadingZero 10 cs = false ↔ cs.head? ≠ some '0' ∨ ∀ c ∈ cs, c = '0' := by
  unfold leadingZero
  by_cases hhead : cs.head? = some '0'
  · simp [hhead]
  · simp [hhead]

theorem leadingZero_of_ne (h : b ≠ 10) : leadingZero b cs = false := by
  simp [leadingZero, h]

theorem magnitude?_of_base (h : base cs = (b, ds)) :
    magnitude? cs = some m ↔
      leadingZero b ds = false ∧ natural? b ds = some m ∧ m ≤ maxMagnitude := by
  rw [magnitude?, h]
  cases hzero : leadingZero b ds <;> simp [hzero, Option.filter_eq_some_iff]

/-- The reader of magnitudes accepts those that are not too large. -/
theorem magnitude?_eq_some_iff :
    magnitude? cs = some m ↔ cs ∈ magnitude m ∧ m ≤ maxMagnitude := by
  rw [mem_magnitude_iff]
  constructor
  · intro h
    rcases base_cases cs with ⟨b, a, ha, ds, rfl⟩ | hbase
    · obtain ⟨-, hnatural, hmax⟩ := (magnitude?_of_base (base_of_mem_mark ha ds)).1 h
      have hds := (natural?_eq_some_iff (of_mem_mark ha).1).1 hnatural
      exact ⟨.inl ⟨b, Language.append_mem_mul ha hds⟩, hmax⟩
    · obtain ⟨hzero, hnatural, hmax⟩ := (magnitude?_of_base hbase).1 h
      have hcs := (natural?_eq_some_iff (by decide)).1 hnatural
      exact ⟨.inr ⟨hcs, leadingZero_eq_false_iff.1 hzero⟩, hmax⟩
  · rintro ⟨⟨b, a, ha, ds, hds, rfl⟩ | ⟨hcs, hzero⟩, hmax⟩
    · obtain ⟨hb, hne, -⟩ := of_mem_mark ha
      exact (magnitude?_of_base (base_of_mem_mark ha ds)).2
        ⟨leadingZero_of_ne hne, (natural?_eq_some_iff hb).2 hds, hmax⟩
    · exact (magnitude?_of_base (base_of_mem_digits hcs)).2
        ⟨leadingZero_eq_false_iff.2 hzero, (natural?_eq_some_iff (by decide)).2 hcs, hmax⟩

/-- What is left behind a sign is no sign. -/
theorem sign_of_mem_magnitude (h : cs ∈ magnitude m) : sign cs = (false, cs) := by
  obtain ⟨c, r, d, rfl, hd⟩ := starts_of_mem_magnitude h
  rw [writesDigit_iff (by decide)] at hd
  unfold sign
  split
  · rename_i heq
    obtain rfl := (List.cons.inj heq).1
    have hminus : '-'.toNat = 45 := by decide
    split_ifs at hd <;> omega
  · rename_i heq
    obtain rfl := (List.cons.inj heq).1
    have hplus : '+'.toNat = 43 := by decide
    split_ifs at hd <;> omega
  · rfl

theorem sign_of_mem_signs {a : List Char} (ha : a ∈ signs negative) (hcs : cs ∈ magnitude m) :
    sign (a ++ cs) = (negative, cs) := by
  cases negative with
  | true =>
    obtain rfl : a = "-".toList := ha
    rfl
  | false =>
    rcases ha with rfl | rfl
    · rfl
    · exact sign_of_mem_magnitude hcs

/-- What is taken for a sign is one. -/
theorem sign_spec (cs : List Char) : ∃ a ∈ signs (sign cs).1, cs = a ++ (sign cs).2 := by
  unfold sign
  split
  · exact ⟨_, rfl, rfl⟩
  · exact ⟨_, .inl rfl, rfl⟩
  · exact ⟨[], .inr rfl, rfl⟩

theorem parse?_of_sign {text : String} (h : sign (trim text.toList) = (negative, cs)) :
    parse? text = some n ↔
      ∃ m, magnitude? cs = some m ∧ (if negative then -(m : Int) else m) = n := by
  unfold parse?
  rw [h]
  simp [Option.bind_eq_some_iff]

/-- A text is read as the integer that it writes, white space at its ends aside. -/
theorem parse?_eq_some_iff {text : String} :
    parse? text = some n ↔ trim text.toList ∈ literal n := by
  constructor
  · intro h
    obtain ⟨m, hm, rfl⟩ := (parse?_of_sign rfl).1 h
    obtain ⟨hmem, hmax⟩ := magnitude?_eq_some_iff.1 hm
    obtain ⟨a, ha, htrim⟩ := sign_spec (trim text.toList)
    exact ⟨_, m, ⟨a, ha, _, hmem, htrim.symm⟩, hmax, rfl⟩
  · rintro ⟨negative, m, ⟨a, ha, cs, hcs, htrim⟩, hmax, rfl⟩
    have hsign : sign (trim text.toList) = (negative, cs) := htrim ▸ sign_of_mem_signs ha hcs
    exact (parse?_of_sign hsign).2 ⟨m, magnitude?_eq_some_iff.2 ⟨hcs, hmax⟩, rfl⟩

theorem natAbs_le_of_mem_literal (h : cs ∈ literal n) : n.natAbs ≤ 2 ^ 63 - 1 := by
  obtain ⟨negative, m, -, hle, rfl⟩ := h
  cases negative <;> simpa using hle

/-- The characters of a literal are characters of ASCII. -/
theorem toNat_lt_of_mem_literal (h : cs ∈ literal n) : ∀ c ∈ cs, c.toNat < 128 := by
  have hdigits : ∀ {b m : Nat} {ds : List Char}, b ≤ 16 → ds ∈ digits b m →
      ∀ c ∈ ds, c.toNat < 128 := by
    intro b m ds hb hds c hc
    obtain ⟨d, hd⟩ := writesDigit_of_mem hds hc
    rw [writesDigit_iff hb] at hd
    split_ifs at hd <;> omega
  have hsigns : ∀ {negative : Bool} {a : List Char}, a ∈ signs negative →
      ∀ c ∈ a, c.toNat < 128 := by
    intro negative a ha
    cases negative with
    | true =>
      obtain rfl : a = "-".toList := ha
      simp
    | false => rcases ha with rfl | rfl <;> simp
  obtain ⟨negative, m, ⟨a, ha, r, hr, rfl⟩, -⟩ := h
  refine List.forall_mem_append.2 ⟨hsigns ha, ?_⟩
  rcases mem_magnitude_iff.1 hr with ⟨b, z, hz, ds, hds, rfl⟩ | hdecimal
  · obtain ⟨hb, -, x, rfl, -, hx⟩ := of_mem_mark hz
    exact List.forall_mem_append.2 ⟨by simpa using hx, hdigits hb hds⟩
  · exact hdigits (by decide) hdecimal.1

/-- A text is read as an integer exactly if it is a literal of this integer, white space at its ends
aside. Any other text is no integer, and no integer that is read is out of range. -/
theorem parse?_reads_literals (text : String) :
    (∀ n, parse? text = some n ↔ trim text.toList ∈ literal n) ∧
    (parse? text = none ↔ ∀ n, trim text.toList ∉ literal n) ∧
    (∀ n ∈ parse? text, n.natAbs ≤ 2 ^ 63 - 1) := by
  refine ⟨fun n => parse?_eq_some_iff, ?_, fun n hn => ?_⟩
  · rw [Option.eq_none_iff_forall_ne_some]
    exact forall_congr' fun n => not_congr parse?_eq_some_iff
  · exact natAbs_le_of_mem_literal (parse?_eq_some_iff.1 hn)

/-- The least integer of 64 bits has a magnitude that is too large. -/
example : parse? "-0x8000000000000000" = none := by decide +kernel

end BoardLint.Numeral
