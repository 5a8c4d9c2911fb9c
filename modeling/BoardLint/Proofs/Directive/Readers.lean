import BoardLint.Proofs.Directive.Grammar
import Mathlib.Data.List.TakeWhile

/-!
# Readers and the grammar

A text is of the form `A * B`, for an atom `A` of the grammar, if the reader of `A` succeeds on it
and leaves a text of the form `B`: `mem_lit_mul`, `mem_blanks_mul`, `mem_gap_mul`, `mem_word_mul`
and `mem_quoted_mul`. The readers of white space and of words take as much as there is, so here `B`
must not start with what they would take too; that no white space is part of a word
(`isWordChar_of_isSpace`) is what makes this so where the grammar puts the two side by side.
-/

namespace BoardLint

namespace Text

/-! ## Where a text starts and ends -/

variable {p : Char → Bool} {a b c cs rest w : List Char}

@[simp] theorem startsOff_nil : StartsOff p [] := nofun

@[simp] theorem startsOff_cons {x : Char} : StartsOff p (x :: cs) ↔ p x = false := by
  simp [StartsOff]

theorem startsOff_append (h : a ≠ []) : StartsOff p (a ++ b) ↔ StartsOff p a := by
  cases a with
  | nil => exact absurd rfl h
  | cons x a => simp

theorem EndsOff.of_append (h : EndsOff p (a ++ b)) : EndsOff p b := by
  intro x hx
  exact h x (by rw [List.getLast?_append, Option.mem_def.1 hx, Option.some_or, Option.mem_some])

theorem endsOff_iff_reverse : EndsOff p cs ↔ StartsOff p cs.reverse := by
  simp [EndsOff, StartsOff]

theorem startsOff_dropWhile (p : Char → Bool) (cs : List Char) : StartsOff p (cs.dropWhile p) := by
  intro x hx
  have h := List.head?_dropWhile_not p cs
  rw [hx] at h
  exact h

theorem dropWhile_eq_self (h : StartsOff p cs) : cs.dropWhile p = cs := by
  cases cs with
  | nil => rfl
  | cons x cs => rw [List.dropWhile_cons, startsOff_cons.1 h, if_neg Bool.false_ne_true]

theorem takeWhile_eq_nil (h : StartsOff p cs) : cs.takeWhile p = [] := by
  cases cs with
  | nil => rfl
  | cons x cs => rw [List.takeWhile_cons, startsOff_cons.1 h, if_neg Bool.false_ne_true]

theorem dropWhile_append (ha : ∀ x ∈ a, p x = true) (hb : StartsOff p b) :
    (a ++ b).dropWhile p = b := by
  rw [List.dropWhile_append_of_pos ha, dropWhile_eq_self hb]

theorem takeWhile_append (ha : ∀ x ∈ a, p x = true) (hb : StartsOff p b) :
    (a ++ b).takeWhile p = a := by
  rw [List.takeWhile_append_of_pos ha, takeWhile_eq_nil hb, List.append_nil]

/-! ## Words and white space -/

/-- The code points of a range, and some in between. -/
def CodeRange.span (r : CodeRange) : List Nat :=
  (List.range (r.last + 1 - r.first)).map (r.first + ·)

theorem CodeRange.mem_span {r : CodeRange} {n : Nat} (h : r.contains n = true) : n ∈ r.span := by
  simp only [CodeRange.contains, Bool.and_eq_true, decide_eq_true_eq] at h
  exact List.mem_map.2 ⟨n - r.first, List.mem_range.2 (by omega), by omega⟩

theorem CodeTable.mem_span {t : CodeTable} {n : Nat} (h : t.contains n = true) :
    n ∈ t.flatMap CodeRange.span := by
  induction t with
  | nil => exact absurd h nofun
  | cons r t ih =>
    rw [CodeTable.contains] at h
    rw [List.flatMap_cons, List.mem_append]
    split at h
    · exact absurd h nofun
    · exact (Bool.or_eq_true_iff.1 h).imp CodeRange.mem_span ih

/-- White space is no part of a word. -/
theorem isWordChar_of_isSpace {x : Char} (h : isSpace x = true) : isWordChar x = false := by
  have hall : ∀ n ∈ spaceTable.flatMap CodeRange.span,
      alphanumericTable.contains n = false ∧ n ≠ '_'.toNat := by decide +kernel
  obtain ⟨halnum, hne⟩ := hall x.toNat (CodeTable.mem_span h)
  have hx : x ≠ '_' := fun hx => hne (congrArg Char.toNat hx)
  rw [isWordChar, isAlphanumeric, halnum, Bool.false_or, beq_eq_false_iff_ne]
  exact hx

theorem isSpace_of_isWordChar {x : Char} (h : isWordChar x = true) : isSpace x = false := by
  cases hs : isSpace x with
  | false => rfl
  | true =>
    rw [isWordChar_of_isSpace hs] at h
    exact absurd h Bool.false_ne_true

/-! ## Readers of atoms -/

theorem mem_lit_mul {s : String} {A : Language Char} :
    cs ∈ lit s * A ↔ ∃ rest, cs = s.toList ++ rest ∧ rest ∈ A := by
  constructor
  · rintro ⟨_, rfl, rest, hrest, rfl⟩
    exact ⟨rest, rfl, hrest⟩
  · rintro ⟨rest, rfl, hrest⟩
    exact Language.append_mem_mul rfl hrest

theorem mem_mul_lit {s : String} {A : Language Char} :
    cs ∈ A * lit s ↔ ∃ start, cs = start ++ s.toList ∧ start ∈ A := by
  constructor
  · rintro ⟨start, hstart, _, rfl, rfl⟩
    exact ⟨start, rfl, hstart⟩
  · rintro ⟨start, rfl, hstart⟩
    exact Language.append_mem_mul hstart rfl

theorem takeWhile_mem_blanks (cs : List Char) : cs.takeWhile isSpace ∈ blanks :=
  List.all_eq_true.1 List.all_takeWhile

theorem mem_blanks_mul {A : Language Char} (hA : ∀ r ∈ A, StartsOff isSpace r) :
    cs ∈ blanks * A ↔ trimStart cs ∈ A := by
  constructor
  · rintro ⟨b, hb, rest, hrest, rfl⟩
    rw [trimStart, dropWhile_append hb (hA rest hrest)]
    exact hrest
  · intro h
    exact ⟨cs.takeWhile isSpace, takeWhile_mem_blanks cs, trimStart cs, h,
      List.takeWhile_append_dropWhile⟩

theorem mem_blanks_mul_of_mem {A : Language Char} (h : cs ∈ A) : cs ∈ blanks * A :=
  ⟨[], nofun, cs, h, rfl⟩

theorem startsOff_trimStart (cs : List Char) : StartsOff isSpace (trimStart cs) :=
  startsOff_dropWhile isSpace cs

theorem dropSpaces?_eq_some_iff :
    Directive.dropSpaces? cs = some rest ↔ trimStart cs = rest ∧ ¬ StartsOff isSpace cs := by
  cases cs with
  | nil => simp [Directive.dropSpaces?]
  | cons x cs =>
    rw [Directive.dropSpaces?, startsOff_cons]
    cases hx : isSpace x with
    | false => simp
    | true => simp [trimStart_cons_of_isSpace hx]

theorem mem_gap_mul {A : Language Char} (hA : ∀ r ∈ A, StartsOff isSpace r) :
    cs ∈ gap * A ↔ ∃ rest, Directive.dropSpaces? cs = some rest ∧ rest ∈ A := by
  constructor
  · rintro ⟨b, ⟨hne, hb⟩, rest, hrest, rfl⟩
    refine ⟨rest, dropSpaces?_eq_some_iff.2 ⟨dropWhile_append hb (hA rest hrest), ?_⟩, hrest⟩
    rw [startsOff_append hne]
    obtain ⟨x, b, rfl⟩ := List.exists_cons_of_ne_nil hne
    rw [startsOff_cons, hb x List.mem_cons_self]
    exact nofun
  · rintro ⟨rest, h, hrest⟩
    obtain ⟨rfl, hcs⟩ := dropSpaces?_eq_some_iff.1 h
    refine ⟨cs.takeWhile isSpace, ⟨fun hnil => hcs ?_, takeWhile_mem_blanks cs⟩, trimStart cs,
      hrest, List.takeWhile_append_dropWhile⟩
    rw [← List.takeWhile_append_dropWhile (p := isSpace) (l := cs), hnil]
    exact startsOff_trimStart cs

theorem takeWord?_eq_some_iff :
    takeWord? cs = some (w, rest) ↔
      cs = w ++ rest ∧ w ≠ [] ∧ (∀ x ∈ w, isWordChar x = true) ∧ StartsOff isWordChar rest := by
  constructor
  · intro h
    refine ⟨append_of_takeWord? h, ne_nil_of_takeWord? h, ?_⟩
    unfold takeWord? at h
    split at h
    · exact absurd h nofun
    · obtain ⟨rfl, rfl⟩ := Prod.mk.inj (Option.some.inj h)
      exact ⟨List.all_eq_true.1 List.all_takeWhile, startsOff_dropWhile isWordChar cs⟩
  · rintro ⟨rfl, hne, hw, hrest⟩
    rw [takeWord?, takeWhile_append hw hrest, dropWhile_append hw hrest, if_neg]
    rwa [List.isEmpty_iff]

theorem mem_word_mul {s : String} {A : Language Char} (hA : ∀ r ∈ A, StartsOff isWordChar r) :
    cs ∈ word s * A ↔ ∃ rest, takeWord? cs = some (s.toList, rest) ∧ rest ∈ A := by
  constructor
  · rintro ⟨_, ⟨rfl, hne, hw⟩, rest, hrest, rfl⟩
    exact ⟨rest, takeWord?_eq_some_iff.2 ⟨rfl, hne, hw, hA rest hrest⟩, hrest⟩
  · rintro ⟨rest, h, hrest⟩
    obtain ⟨rfl, hne, hw, -⟩ := takeWord?_eq_some_iff.1 h
    exact Language.append_mem_mul ⟨rfl, hne, hw⟩ hrest

theorem takeQuoted?_eq_some_iff :
    Directive.takeQuoted? cs = some (w, rest) ↔
      cs = '"' :: w ++ '"' :: rest ∧ w ≠ [] ∧ '"' ∉ w := by
  constructor
  · intro h
    unfold Directive.takeQuoted? at h
    split at h
    · rename_i cs
      split at h
      · exact absurd h nofun
      · exact absurd h nofun
      · rename_i quote rest' hdrop hne
        obtain ⟨rfl, rfl⟩ := Prod.mk.inj (Option.some.inj h)
        obtain rfl : quote = '"' := by
          have hoff := startsOff_dropWhile (· != '"') cs
          rw [hdrop, startsOff_cons] at hoff
          simpa using hoff
        refine ⟨?_, hne, fun hmem => ?_⟩
        · rw [List.cons_append, ← hdrop, List.takeWhile_append_dropWhile]
        · have hall := List.all_eq_true.1 (List.all_takeWhile (p := (· != '"')) (l := cs)) _ hmem
          simp at hall
    · exact absurd h nofun
  · rintro ⟨rfl, hne, hw⟩
    have hpos : ∀ x ∈ w, (x != '"') = true := by
      rintro x hx
      rw [bne_iff_ne]
      rintro rfl
      exact hw hx
    have hoff : StartsOff (· != '"') ('"' :: rest) := startsOff_cons.2 (by decide)
    simp only [Directive.takeQuoted?, List.cons_append, takeWhile_append hpos hoff,
      dropWhile_append hpos hoff]

theorem mem_quoted_mul {s : String} {A : Language Char} :
    cs ∈ quoted s * A ↔ ∃ rest, Directive.takeQuoted? cs = some (s.toList, rest) ∧ rest ∈ A := by
  constructor
  · rintro ⟨_, ⟨rfl, hne, hs⟩, rest, hrest, rfl⟩
    exact ⟨rest, takeQuoted?_eq_some_iff.2 ⟨by simp, hne, hs⟩, hrest⟩
  · rintro ⟨rest, h, hrest⟩
    obtain ⟨rfl, hne, hs⟩ := takeQuoted?_eq_some_iff.1 h
    rw [show '"' :: s.toList ++ '"' :: rest = ('"' :: s.toList ++ ['"']) ++ rest by simp]
    exact Language.append_mem_mul ⟨rfl, hne, hs⟩ hrest

/-! ## How the atoms start -/

theorem startsOff_of_mem_lit_mul {s : String} {A : Language Char}
    (hs : s.toList.head?.map p = some false) (h : cs ∈ lit s * A) : StartsOff p cs := by
  obtain ⟨r, rfl, -⟩ := mem_lit_mul.1 h
  obtain ⟨x, hx, hp⟩ := Option.map_eq_some_iff.1 hs
  intro y hy
  rw [List.head?_append, hx, Option.some_or] at hy
  exact Option.some.inj hy ▸ hp

theorem startsOff_space_of_mem_word {w : String} (h : cs ∈ word w) : StartsOff isSpace cs := by
  obtain ⟨-, hne, hw⟩ := h
  obtain ⟨x, cs, rfl⟩ := List.exists_cons_of_ne_nil hne
  exact startsOff_cons.2 (isSpace_of_isWordChar (hw x List.mem_cons_self))

theorem endsOff_space_of_mem_word {w : String} (h : cs ∈ word w) : EndsOff isSpace cs :=
  fun x hx => isSpace_of_isWordChar (h.2.2 x (List.mem_of_getLast? hx))

theorem startsOff_space_of_mem_word_mul {w : String} {A : Language Char} (h : cs ∈ word w * A) :
    StartsOff isSpace cs := by
  obtain ⟨a, ha, b, -, rfl⟩ := h
  rw [startsOff_append ha.2.1]
  exact startsOff_space_of_mem_word ha

theorem startsOff_word_of_mem_gap_mul {A : Language Char} (h : cs ∈ gap * A) :
    StartsOff isWordChar cs := by
  obtain ⟨b, ⟨hne, hb⟩, rest, -, rfl⟩ := h
  rw [startsOff_append hne]
  obtain ⟨x, b, rfl⟩ := List.exists_cons_of_ne_nil hne
  exact startsOff_cons.2 (isWordChar_of_isSpace (hb x List.mem_cons_self))

theorem startsOff_word_of_mem_blanks_mul {A : Language Char}
    (hA : ∀ r ∈ A, StartsOff isWordChar r) (h : cs ∈ blanks * A) : StartsOff isWordChar cs := by
  obtain ⟨b, hb, rest, hrest, rfl⟩ := h
  cases b with
  | nil => exact hA rest hrest
  | cons x b => exact startsOff_cons.2 (isWordChar_of_isSpace (hb x List.mem_cons_self))

theorem startsOff_space_of_mem_quoted {path : String} (h : cs ∈ quoted path) :
    StartsOff isSpace cs := by
  obtain ⟨rfl, -⟩ := h
  exact startsOff_cons.2 (by decide)

theorem startsOff_space_of_mem_quoted_mul {path : String} {A : Language Char}
    (h : cs ∈ quoted path * A) : StartsOff isSpace cs := by
  obtain ⟨a, ⟨rfl, -⟩, b, -, rfl⟩ := h
  exact startsOff_cons.2 (by decide)

/-! ## Readers of whole texts -/

theorem ofList_eq_iff {s : String} : String.ofList cs = s ↔ cs = s.toList := by
  constructor
  · rintro rfl
    exact String.toList_ofList.symm
  · rintro rfl
    exact String.ofList_toList

theorem onlyWord?_eq_some_iff {s : String} :
    Directive.onlyWord? cs = some s ↔ cs ∈ word s := by
  rw [← mul_one (word s), mem_word_mul (by rintro _ rfl; exact startsOff_nil)]
  unfold Directive.onlyWord?
  constructor
  · intro h
    split at h
    · rename_i w hw
      exact ⟨[], ofList_eq_iff.1 (Option.some.inj h) ▸ hw, rfl⟩
    · exact absurd h nofun
  · rintro ⟨_, hw, rfl⟩
    rw [hw]
    exact congrArg some String.ofList_toList

theorem takeQuoted?_alone {path : String} :
    Directive.takeQuoted? cs = some (path.toList, []) ↔ cs ∈ quoted path := by
  rw [← mul_one (quoted path), mem_quoted_mul]
  constructor
  · intro h
    exact ⟨[], h, rfl⟩
  · rintro ⟨_, h, rfl⟩
    exact h

theorem filled?_eq_some_iff {v : String} :
    Directive.filled? cs = some v ↔ cs ∈ padded v := by
  show _ ↔ trim cs = v.toList ∧ trim cs ≠ []
  unfold Directive.filled?
  split
  · rename_i h
    simp [h]
  · rename_i h
    rw [Option.some.injEq, ofList_eq_iff]
    exact ⟨fun hv => ⟨hv, h⟩, fun hv => hv.1⟩

theorem trimEnd_eq_self (h : EndsOff isSpace cs) : trimEnd cs = cs := by
  rw [trimEnd, trimStart, dropWhile_eq_self (endsOff_iff_reverse.1 h), List.reverse_reverse]

theorem trim_eq_self (hs : StartsOff isSpace cs) (he : EndsOff isSpace cs) : trim cs = cs := by
  rw [trim, trimStart, dropWhile_eq_self hs, trimEnd_eq_self he]

theorem trim_of_mem_word {w : String} (h : cs ∈ word w) : trim cs = cs :=
  trim_eq_self (startsOff_space_of_mem_word h) (endsOff_space_of_mem_word h)

theorem endsOff_trimEnd (cs : List Char) : EndsOff isSpace (trimEnd cs) := by
  rw [endsOff_iff_reverse, trimEnd, List.reverse_reverse]
  exact startsOff_trimStart cs.reverse

/-- What is cut off is at the end. -/
theorem trimEnd_isPrefix (cs : List Char) : trimEnd cs <+: cs := by
  have hsuffix : trimStart cs.reverse <:+ cs.reverse := List.dropWhile_suffix _
  rw [← List.reverse_prefix, List.reverse_reverse] at hsuffix
  exact hsuffix

theorem trimEnd_append_blanks (hb : ∀ x ∈ b, isSpace x = true) : trimEnd (a ++ b) = trimEnd a := by
  have hreverse : ∀ x ∈ b.reverse, isSpace x = true := fun x hx => hb x (List.mem_reverse.1 hx)
  rw [trimEnd, List.reverse_append, trimStart, List.dropWhile_append_of_pos hreverse]
  rfl

theorem trim_append_blanks (hb : ∀ x ∈ b, isSpace x = true) : trim (a ++ b) = trim a := by
  have hnil : trimStart b = [] := List.dropWhile_eq_nil_iff.2 hb
  rw [trim, trim, trimStart, trimStart, List.dropWhile_append]
  split
  · rename_i ha
    rw [List.isEmpty_iff.1 ha, ← trimStart, hnil]
  · exact trimEnd_append_blanks hb

/-- What is cut off at the end is white space. -/
theorem exists_trimEnd_append (cs : List Char) :
    ∃ b, cs = trimEnd cs ++ b ∧ ∀ x ∈ b, isSpace x = true := by
  refine ⟨(cs.reverse.takeWhile isSpace).reverse, ?_, fun x hx => ?_⟩
  · rw [trimEnd, trimStart, ← List.reverse_append, List.takeWhile_append_dropWhile,
      List.reverse_reverse]
  · exact takeWhile_mem_blanks cs.reverse x (List.mem_reverse.1 hx)

theorem trim_trimEnd (cs : List Char) : trim (trimEnd cs) = trim cs := by
  obtain ⟨b, hcs, hb⟩ := exists_trimEnd_append cs
  conv_rhs => rw [hcs, trim_append_blanks hb]

theorem length_trim_le (cs : List Char) : (trim cs).length ≤ cs.length :=
  (trimEnd_isPrefix (trimStart cs)).length_le.trans (List.dropWhile_suffix _).length_le

theorem StartsOff.of_isPrefix (h : StartsOff p b) (hab : a <+: b) : StartsOff p a := by
  obtain ⟨c, rfl⟩ := hab
  cases a with
  | nil => exact startsOff_nil
  | cons x a => exact startsOff_cons.2 (startsOff_cons.1 h)

theorem startsOff_trim (cs : List Char) : StartsOff isSpace (trim cs) :=
  (startsOff_trimStart cs).of_isPrefix (trimEnd_isPrefix (trimStart cs))

theorem endsOff_trim (cs : List Char) : EndsOff isSpace (trim cs) := endsOff_trimEnd (trimStart cs)

theorem endsOff_trimStart (he : EndsOff isSpace cs) : EndsOff isSpace (trimStart cs) := by
  rw [← List.takeWhile_append_dropWhile (p := isSpace) (l := cs)] at he
  exact he.of_append

/-- Where there is no white space at the ends, nothing is cut off. -/
theorem mem_padded_iff {v : String} (hs : StartsOff isSpace cs) (he : EndsOff isSpace cs) :
    cs ∈ padded v ↔ cs ∈ value v := by
  show trim cs = v.toList ∧ trim cs ≠ [] ↔ _
  rw [trim_eq_self hs he]
  exact ⟨fun h => ⟨h.1, h.2, hs, he⟩, fun h => ⟨h.1, h.2.1⟩⟩

end Text

end BoardLint
