import Mathlib.Data.String.Basic
import Mathlib.Tactic.SplitIfs

/-!
# The order of texts and of their bytes

Texts are ordered by code points, character by character. This is the order of their bytes in UTF-8
(`lt_iff_bytes_lt`): of two characters the greater one has the greater bytes, and the bytes of no
character go on with those of another, so that two texts part in one and the same character in both
orders.
-/

namespace BoardLint.Text

variable {c d : Char} {x y : Nat} {cs ds : List Char}

/-- The bytes of a text in UTF-8. -/
def bytes (s : String) : List UInt8 := s.toByteArray.data.toList

theorem bytes_eq (s : String) : bytes s = s.toList.flatMap String.utf8EncodeChar := by
  rw [bytes, ← String.utf8Encode_toList, List.utf8Encode, List.toList_data_toByteArray]

theorem ofNat_lt_ofNat_iff (hx : x < 256) (hy : y < 256) :
    UInt8.ofNat x < UInt8.ofNat y ↔ x < y := by
  rw [UInt8.lt_iff_toNat_lt, UInt8.toNat_ofNat_of_lt' hx, UInt8.toNat_ofNat_of_lt' hy]

theorem ofNat_eq_ofNat_iff (hx : x < 256) (hy : y < 256) :
    UInt8.ofNat x = UInt8.ofNat y ↔ x = y := by
  rw [← UInt8.toNat_inj, UInt8.toNat_ofNat_of_lt' hx, UInt8.toNat_ofNat_of_lt' hy]

theorem toNat_lt (c : Char) : c.val.toNat < 0x110000 := by
  rcases c.valid with h | ⟨-, h⟩
  · exact Nat.lt_trans h (by decide)
  · exact h

/-- Numbers are compared in base 64 place by place, from the greatest place on. -/
theorem places_lt (h : x < y) (hy : y < 0x110000) :
    x / 262144 % 8 < y / 262144 % 8 ∨ x / 262144 % 8 = y / 262144 % 8 ∧
      (x / 4096 % 64 < y / 4096 % 64 ∨ x / 4096 % 64 = y / 4096 % 64 ∧
        (x / 64 % 64 < y / 64 % 64 ∨ x / 64 % 64 = y / 64 % 64 ∧ x % 64 < y % 64)) := by
  have hplace : ∀ n m : Nat, n < m → n / 64 < m / 64 ∨ n / 64 = m / 64 ∧ n % 64 < m % 64 := by
    omega
  have hfirst := hplace x y h
  have hsecond := hplace (x / 64) (y / 64)
  have hthird := hplace (x / 4096) (y / 4096)
  have htop : ∀ n < 0x110000, n / 262144 % 8 = n / 262144 := fun n hn =>
    Nat.mod_eq_of_lt (Nat.div_lt_of_lt_mul (Nat.lt_trans hn (by decide)))
  simp only [Nat.div_div_eq_div_mul] at hsecond hthird
  rw [htop x (Nat.lt_trans h hy), htop y hy]
  omega

/-- The bytes of a greater character are greater, whatever follows. -/
theorem encode_append_lt (h : c < d) (s t : List UInt8) :
    String.utf8EncodeChar c ++ s < String.utf8EncodeChar d ++ t := by
  have hval : c.val.toNat < d.val.toNat := h
  have hmax := toNat_lt d
  have hplaces := places_lt hval hmax
  unfold String.utf8EncodeChar
  dsimp only
  -- One case for each pair of lengths: the first bytes differ where the lengths do, and the places
  -- of the two characters decide where they do not.
  split_ifs <;>
    simp (disch := omega) only [List.cons_append, List.nil_append, List.cons_lt_cons_iff,
      ofNat_lt_ofNat_iff, ofNat_eq_ofNat_iff] <;> omega

theorem flatMap_encode_lt (h : cs < ds) :
    cs.flatMap String.utf8EncodeChar < ds.flatMap String.utf8EncodeChar := by
  induction h with
  | nil =>
    rw [List.flatMap_cons]
    obtain ⟨x, rest, hrest⟩ := List.exists_cons_of_ne_nil
      (List.append_ne_nil_of_left_ne_nil String.utf8EncodeChar_ne_nil _)
    rw [hrest]
    exact .nil
  | rel h => exact encode_append_lt h _ _
  | cons h ih => exact List.append_left_lt ih

/-- Texts have the order of their bytes. -/
theorem lt_iff_bytes_lt {a b : String} : a < b ↔ bytes a < bytes b := by
  have hmono : ∀ {a b : String}, a < b → bytes a < bytes b := by
    intro a b h
    rw [bytes_eq, bytes_eq]
    exact flatMap_encode_lt h
  refine ⟨hmono, fun h => ?_⟩
  rcases lt_trichotomy a b with hab | rfl | hba
  · exact hab
  · exact absurd h (List.lt_irrefl _)
  · exact absurd h (List.lt_asymm (hmono hba))

theorem le_iff_bytes_le {a b : String} : a ≤ b ↔ bytes a ≤ bytes b :=
  not_congr lt_iff_bytes_lt

end BoardLint.Text
