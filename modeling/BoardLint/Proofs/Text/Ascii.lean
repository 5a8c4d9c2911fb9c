import BoardLint.Text.Case

/-!
# Letters of ASCII

Letter case follows tables of Unicode. On the characters of ASCII these tables say what `Char` says
of its letters (`isLowercase_of_ascii`, `upperChar_of_ascii`). As there are only 128 of them, a
property of these characters is decided by going through them (`of_ascii`).
-/

namespace BoardLint.Text

variable {c : Char} {cs : List Char}

theorem of_ascii {P : Char → Prop} (hall : ∀ n < 128, P (Char.ofNat n)) (h : c.toNat < 128) :
    P c := by
  rw [← Char.ofNat_toNat c]
  exact hall c.toNat h

theorem forall_ascii {P : Char → Prop} (hall : ∀ n < 128, P (Char.ofNat n))
    (h : ∀ c ∈ cs, c.toNat < 128) : ∀ c ∈ cs, P c := fun c hc => of_ascii hall (h c hc)

theorem isLowercase_of_ascii (h : c.toNat < 128) : isLowercase c = c.isLower :=
  of_ascii (P := fun c => isLowercase c = c.isLower) (by decide +kernel) h

theorem isUpperName_of_ascii {w : String} (h : ∀ c ∈ w.toList, c.toNat < 128) :
    isUpperName w = !w.toList.any Char.isLower := by
  have hany : w.toList.any isLowercase = w.toList.any Char.isLower := by
    rw [Bool.eq_iff_iff, List.any_eq_true, List.any_eq_true]
    exact exists_congr fun c => and_congr_right fun hc => by rw [isLowercase_of_ascii (h c hc)]
  rw [isUpperName, hany]

theorem upperChar_of_ascii (h : c.toNat < 128) : upperChar c = [c.toUpper] :=
  of_ascii (P := fun c => upperChar c = [c.toUpper]) (by decide +kernel) h

theorem upper_of_ascii (h : ∀ c ∈ cs, c.toNat < 128) : upper cs = cs.map Char.toUpper := by
  induction cs with
  | nil => rfl
  | cons c cs ih =>
    rw [List.forall_mem_cons] at h
    calc upper (c :: cs) = upperChar c ++ upper cs := rfl
      _ = [c.toUpper] ++ cs.map Char.toUpper := by rw [upperChar_of_ascii h.1, ih h.2]

end BoardLint.Text
