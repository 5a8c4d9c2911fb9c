import Std.Data.TreeMap
import Mathlib.Data.String.Basic

/-!
# Tables made from tables

A table is made from another one by converting its entries in the order of their keys and inserting
each under a new key (`insertAll`). Where entries cannot be converted, the one with the least key is
at fault (`insertAll_toList_eq_error_iff`). Where entries get the same new key, the one with the
greatest old key counts (`getElem?_insertAll_toList_eq_some_iff`).
-/

namespace BoardLint.Schema

open Std

variable {α β κ ε : Type}

/-! ## The first entry of a table -/

/-- The first value in a list in order is at the element that all others with a value are behind. -/
theorem findSome?_eq_some_iff_of_pairwise {R : α → α → Prop} (hasymm : ∀ a b, R a b → ¬ R b a)
    {l : List α} (hl : l.Pairwise R) {f : α → Option β} {b : β} :
    l.findSome? f = some b ↔ ∃ a ∈ l, f a = some b ∧ ∀ a' ∈ l, f a' ≠ none → a' = a ∨ R a a' := by
  rw [List.findSome?_eq_some_iff]
  constructor
  · rintro ⟨l₁, a, l₂, rfl, ha, hnone⟩
    have hbehind := (List.pairwise_cons.1 (List.pairwise_append.1 hl).2.1).1
    refine ⟨a, List.mem_append_right _ List.mem_cons_self, ha, List.forall_mem_append.2 ⟨?_, ?_⟩⟩
    · exact fun a' ha' hvalue => absurd (hnone a' ha') hvalue
    · exact List.forall_mem_cons.2 ⟨fun _ => .inl rfl, fun a' ha' _ => .inr (hbehind a' ha')⟩
  · rintro ⟨a, ha, hvalue, hfirst⟩
    obtain ⟨l₁, l₂, rfl⟩ := List.append_of_mem ha
    refine ⟨l₁, a, l₂, rfl, hvalue, fun x hx => ?_⟩
    have hbefore : R x a := (List.pairwise_append.1 hl).2.2 x hx a List.mem_cons_self
    by_contra hne
    rcases hfirst x (List.mem_append_left _ hx) hne with rfl | hbehind
    · exact hasymm x x hbefore hbefore
    · exact hasymm x a hbefore hbehind

section Entries

variable {t : TreeMap String α} {f : String × α → Option β} {b : β}

/-- The entries of a table are in the order of their keys. -/
theorem pairwise_toList (t : TreeMap String α) : t.toList.Pairwise fun p q => p.1 < q.1 :=
  t.ordered_keys_toList.imp compareOfLessAndEq_eq_lt.1

/-- The first value in the order of the keys is the one with the least key. -/
theorem findSome?_toList_eq_some_iff :
    t.toList.findSome? f = some b ↔ ∃ key a, t[key]? = some a ∧ f (key, a) = some b ∧
      ∀ key' a', t[key']? = some a' → f (key', a') ≠ none → key ≤ key' := by
  rw [findSome?_eq_some_iff_of_pairwise (fun _ _ => lt_asymm) (pairwise_toList t)]
  simp only [Prod.exists, Prod.forall, TreeMap.mem_toList_iff_getElem?_eq_some]
  refine exists₂_congr fun key a => and_congr_right fun ha => and_congr_right fun _ =>
    forall₃_congr fun key' a' ha' => imp_congr_right fun _ => ?_
  rw [le_iff_eq_or_lt, Prod.mk.injEq, eq_comm (a := key)]
  refine or_congr_left (and_iff_left_of_imp ?_)
  rintro rfl
  exact Option.some.inj (ha'.symm.trans ha)

/-- The last value in the order of the keys is the one with the greatest key. -/
theorem findSome?_reverse_toList_eq_some_iff :
    t.toList.reverse.findSome? f = some b ↔ ∃ key a, t[key]? = some a ∧ f (key, a) = some b ∧
      ∀ key' a', t[key']? = some a' → f (key', a') ≠ none → key' ≤ key := by
  rw [findSome?_eq_some_iff_of_pairwise (fun _ _ => lt_asymm)
    (List.pairwise_reverse.2 (pairwise_toList t))]
  simp only [Prod.exists, Prod.forall, List.mem_reverse, TreeMap.mem_toList_iff_getElem?_eq_some]
  refine exists₂_congr fun key a => and_congr_right fun ha => and_congr_right fun _ =>
    forall₃_congr fun key' a' ha' => imp_congr_right fun _ => ?_
  rw [le_iff_eq_or_lt, Prod.mk.injEq]
  refine or_congr_left (and_iff_left_of_imp ?_)
  rintro rfl
  exact Option.some.inj (ha'.symm.trans ha)

end Entries

/-! ## Inserting under new keys -/

/-- What is wrong with an element that cannot be converted. -/
def error? : Except ε α → Option ε
  | .ok _ => none
  | .error e => some e

theorem error?_eq_some_iff {converted : Except ε α} {e : ε} :
    error? converted = some e ↔ converted = .error e := by
  cases converted <;> simp [error?]

theorem error?_ne_none_iff {converted : Except ε α} :
    error? converted ≠ none ↔ ∃ e, converted = .error e := by
  cases converted <;> simp [error?]

section InsertAll

variable [Ord κ]

/-- What an element adds under a key. -/
def valueAt? (k : κ) : Except ε (κ × β) → Option β
  | .ok (k', b) => if compare k' k = .eq then some b else none
  | .error _ => none

theorem valueAt?_eq_some_iff [LawfulEqOrd κ] {k : κ} {converted : Except ε (κ × β)} {b : β} :
    valueAt? k converted = some b ↔ converted = .ok (k, b) := by
  rcases converted with _ | ⟨k', b'⟩ <;> simp [valueAt?]

theorem valueAt?_ne_none_iff [LawfulEqOrd κ] {k : κ} {converted : Except ε (κ × β)} :
    valueAt? k converted ≠ none ↔ ∃ b, converted = .ok (k, b) := by
  rw [Option.ne_none_iff_exists']
  exact exists_congr fun _ => valueAt?_eq_some_iff

/-- Converts the elements one after the other, and inserts each under its key. -/
def insertAll (convert : α → Except ε (κ × β)) :
    List α → TreeMap κ β → Except ε (TreeMap κ β)
  | [], m => .ok m
  | a :: l, m =>
    match convert a with
    | .ok (k, b) => insertAll convert l (m.insert k b)
    | .error e => .error e

section Lists

variable {convert : α → Except ε (κ × β)} {l : List α} {m r : TreeMap κ β} {e : ε}

/-- The first element that cannot be converted ends the conversion. -/
theorem insertAll_eq_error_iff :
    insertAll convert l m = .error e ↔ l.findSome? (error? ∘ convert) = some e := by
  induction l generalizing m with
  | nil => simp [insertAll]
  | cons a l ih =>
    unfold insertAll
    cases h : convert a with
    | ok p =>
      rw [List.findSome?_cons_of_isNone (by simp [h, error?])]
      exact ih
    | error e' => simp [h, error?]

/-- The last element that is converted to a key counts. -/
theorem getElem?_of_insertAll [TransOrd κ] (h : insertAll convert l m = .ok r) (k : κ) :
    r[k]? = (l.reverse.findSome? (valueAt? k ∘ convert)).or m[k]? := by
  induction l generalizing m with
  | nil =>
    obtain rfl := Except.ok.inj h
    rfl
  | cons a l ih =>
    unfold insertAll at h
    split at h
    · next k' b hconvert =>
      rw [ih h, List.reverse_cons, List.findSome?_append, Option.or_assoc, TreeMap.getElem?_insert]
      simp only [List.findSome?_cons, List.findSome?_nil, Function.comp_apply, hconvert, valueAt?]
      split <;> rfl
    · cases h

end Lists

section Tables

variable {t : TreeMap String α} {convert : String × α → Except ε (κ × β)} {m r : TreeMap κ β}
  {e : ε} {k : κ} {b : β}

/-- The entry at fault is the one with the least key of those that cannot be converted. -/
theorem insertAll_toList_eq_error_iff :
    insertAll convert t.toList m = .error e ↔
      ∃ key a, t[key]? = some a ∧ convert (key, a) = .error e ∧
        ∀ key' a', t[key']? = some a' → (∃ e', convert (key', a') = .error e') → key ≤ key' := by
  rw [insertAll_eq_error_iff, findSome?_toList_eq_some_iff]
  simp only [Function.comp_apply, error?_eq_some_iff, error?_ne_none_iff]

theorem exists_insertAll_toList_eq_ok_iff :
    (∃ r, insertAll convert t.toList m = .ok r) ↔
      ∀ key a, t[key]? = some a → ∃ p, convert (key, a) = .ok p := by
  have hok : ∀ {γ : Type} (x : Except ε γ), (∃ c, x = .ok c) ↔ error? x = none := by
    intro γ x
    cases x <;> simp [error?]
  have hloop : error? (insertAll convert t.toList m) = t.toList.findSome? (error? ∘ convert) :=
    Option.ext fun e => error?_eq_some_iff.trans insertAll_eq_error_iff
  simp only [hok, hloop, List.findSome?_eq_none_iff, Prod.forall, Function.comp_apply,
    TreeMap.mem_toList_iff_getElem?_eq_some]

/-- Of the entries that get the same new key, the one with the greatest old key counts. -/
theorem getElem?_insertAll_toList_eq_some_iff [TransOrd κ] [LawfulEqOrd κ]
    (h : insertAll convert t.toList ∅ = .ok r) :
    r[k]? = some b ↔ ∃ key a, t[key]? = some a ∧ convert (key, a) = .ok (k, b) ∧
      ∀ key' a', t[key']? = some a' → (∃ b', convert (key', a') = .ok (k, b')) → key' ≤ key := by
  rw [getElem?_of_insertAll h, TreeMap.getElem?_emptyc, Option.or_none,
    findSome?_reverse_toList_eq_some_iff]
  simp only [Function.comp_apply, valueAt?_eq_some_iff, valueAt?_ne_none_iff]

theorem getElem?_insertAll_toList_eq_none_iff [TransOrd κ] [LawfulEqOrd κ]
    (h : insertAll convert t.toList ∅ = .ok r) :
    r[k]? = none ↔ ∀ key a, t[key]? = some a → ¬ ∃ b, convert (key, a) = .ok (k, b) := by
  rw [getElem?_of_insertAll h, TreeMap.getElem?_emptyc, Option.or_none,
    List.findSome?_eq_none_iff]
  simp only [Prod.forall, List.mem_reverse, TreeMap.mem_toList_iff_getElem?_eq_some,
    Function.comp_apply, Option.eq_none_iff_forall_ne_some, ne_eq, valueAt?_eq_some_iff,
    not_exists]

end Tables

end InsertAll

end BoardLint.Schema
