import BoardLint.Proofs.Numeral
import BoardLint.Value

/-!
# Values read back

A value is printed as an integer in base ten or as the text it is. What has been read and is printed
reads as the same value again (`ofString_toString`): a text has been refused as a literal, and stays
refused, and an integer that has been read is small enough for its decimal digits to be a literal.
-/

namespace BoardLint

namespace Numeral

open Text

variable {b d m : Nat} {c : Char} {cs : List Char} {n : Int}

/-! ## Printed digits -/

theorem writesDigit_digitChar (h : d < 10) : WritesDigit 10 (Nat.digitChar d) d := by
  refine ⟨h, ?_⟩
  revert d
  decide

/-- A number that is written gets one digit more. -/
theorem digits_concat (h : cs ∈ digits b m) (hc : WritesDigit b c d) :
    cs ++ [c] ∈ digits b (b * m + d) := by
  obtain ⟨-, ds, hds, rfl⟩ := h
  refine ⟨List.append_ne_nil_of_right_ne_nil _ (List.cons_ne_nil _ _), ds ++ [d],
    List.rel_append hds (.cons hc .nil), ?_⟩
  rw [List.reverse_concat, Nat.ofDigits_cons, Nat.add_comm]

theorem toDigits_mem_digits (m : Nat) : Nat.toDigits 10 m ∈ digits 10 m := by
  induction m using Nat.base_induction 10 (by decide) with
  | single d hd =>
    rw [Nat.toDigits_of_lt_base hd]
    exact ⟨List.cons_ne_nil _ _, [d], .cons (writesDigit_digitChar hd) .nil, by simp⟩
  | digit m d hd hm ih =>
    rw [← Nat.toDigits_append_toDigits (by decide) hm hd, Nat.toDigits_of_lt_base hd]
    exact digits_concat ih (writesDigit_digitChar hd)

/-- No zero is printed in front of a number. -/
theorem head?_toDigits (h : 0 < m) : (Nat.toDigits 10 m).head? ≠ some '0' := by
  induction m using Nat.base_induction 10 (by decide) with
  | single d hd =>
    rw [Nat.toDigits_of_lt_base hd]
    revert d
    decide
  | digit m d hd hm ih =>
    rw [← Nat.toDigits_append_toDigits (by decide) hm hd,
      List.head?_append_of_ne_nil _ Nat.toDigits_ne_nil]
    exact ih hm

theorem toDigits_mem_decimal (m : Nat) : Nat.toDigits 10 m ∈ decimal m := by
  refine ⟨toDigits_mem_digits m, ?_⟩
  rcases Nat.eq_zero_or_pos m with rfl | hm
  · rw [Nat.toDigits_of_lt_base (by decide)]
    exact .inr fun c hc => List.mem_singleton.1 hc
  · exact .inl (head?_toDigits hm)

/-! ## Printed integers -/

theorem toList_toString (n : Int) :
    (toString n).toList = (if n < 0 then "-".toList else []) ++ Nat.toDigits 10 n.natAbs := by
  cases n with
  | ofNat m =>
    rw [if_neg (by simp), List.nil_append]
    exact Nat.toList_repr
  | negSucc m =>
    rw [if_pos (Int.negSucc_lt_zero m), ← Nat.toList_repr, ← String.toList_append]
    rfl

/-- What is printed for an integer is a literal of it, if its magnitude is not too large. -/
theorem toString_mem_literal (h : n.natAbs ≤ 2 ^ 63 - 1) : (toString n).toList ∈ literal n := by
  have hdigits : Nat.toDigits 10 n.natAbs ∈ magnitude n.natAbs := .inr (toDigits_mem_decimal _)
  rw [toList_toString]
  by_cases hn : n < 0
  · rw [if_pos hn]
    refine ⟨true, n.natAbs, Language.append_mem_mul rfl hdigits, h, ?_⟩
    rw [if_pos rfl]
    omega
  · rw [if_neg hn]
    refine ⟨false, n.natAbs, Language.append_mem_mul (.inr rfl) hdigits, h, ?_⟩
    rw [if_neg Bool.false_ne_true]
    omega

theorem isSpace_of_writesDigit (h : WritesDigit 10 c d) : isSpace c = false := by
  have hall : ∀ k < 58, 48 ≤ k → spaceTable.contains k = false := by decide
  rw [writesDigit_iff (by decide)] at h
  refine hall c.toNat ?_ ?_ <;> split_ifs at h <;> omega

theorem isSpace_of_mem_toString (h : c ∈ (toString n).toList) : isSpace c = false := by
  rw [toList_toString, List.mem_append] at h
  rcases h with h | h
  · split at h
    · rw [List.mem_singleton.1 h]
      decide
    · exact absurd h List.not_mem_nil
  · obtain ⟨d, hd⟩ := writesDigit_of_mem (toDigits_mem_digits _) h
    exact isSpace_of_writesDigit hd

theorem trim_toString (n : Int) : trim (toString n).toList = (toString n).toList :=
  trim_eq_self (fun _ hc => isSpace_of_mem_toString (List.mem_of_head? hc))
    fun _ hc => isSpace_of_mem_toString (List.mem_of_getLast? hc)

/-- The decimal digits of an integer are read as this integer exactly if it is in range. -/
theorem parse?_toString_eq_iff : parse? (toString n) = some n ↔ n.natAbs ≤ 2 ^ 63 - 1 := by
  rw [parse?_eq_some_iff, trim_toString]
  exact ⟨natAbs_le_of_mem_literal, toString_mem_literal⟩

end Numeral

namespace Value

theorem ofString_eq_int_iff {s : String} {n : Int} :
    ofString s = int n ↔ Numeral.parse? s = some n := by
  unfold ofString
  cases Numeral.parse? s <;> simp

/-- A value that has been read reads as itself when it is printed, and so does every integer of 64
bits but for the least one. -/
theorem ofString_toString :
    (∀ s, ofString (toString (ofString s)) = ofString s) ∧
    ∀ n : Int, ofString (toString n) = int n ↔ -2 ^ 63 < n ∧ n < 2 ^ 63 := by
  constructor
  · intro s
    cases h : Numeral.parse? s with
    | none =>
      have htext : ofString s = text s := by
        unfold ofString
        rw [h]
      rw [htext, toString_text, htext]
    | some n =>
      have hint : ofString s = int n := ofString_eq_int_iff.2 h
      have hrange := Numeral.natAbs_le_of_mem_literal (Numeral.parse?_eq_some_iff.1 h)
      rw [hint, toString_int]
      exact ofString_eq_int_iff.2 (Numeral.parse?_toString_eq_iff.2 hrange)
  · intro n
    rw [ofString_eq_int_iff, Numeral.parse?_toString_eq_iff]
    omega

end Value

end BoardLint
