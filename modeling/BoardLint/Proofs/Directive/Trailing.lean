import BoardLint.Proofs.Directive.Readers
import Mathlib.Algebra.Group.Nat.Even
import Mathlib.Order.Bounds.Defs

/-!
# Trailing comments

A comment starts at two slashes behind an even number of double quotes (`CommentAt`, `HasComment`).
The reader keeps track of the quotes by a flag, so what it finds is told for both values of the
flag: `QuoteOpen` says what the flag will be behind a text.

The reader finds the least place where a comment starts (`isLeast_of_beforeComment?`). What it cuts
off there does not matter: what is left has no comment any more, and a line with a remark behind it
is the directive that it is without (`trailing_comments`).
-/

namespace BoardLint.Directive

open Text

variable {quoted : Bool} {a b c cs w : List Char} {x : Char} {i : Nat}

/-- A double quote is open behind the text, given whether one is open in front of it. -/
def QuoteOpen (quoted : Bool) (cs : List Char) : Prop := quoted = true ↔ Even (cs.count '"')

/-- A comment starts somewhere in the text. -/
def HasComment (cs : List Char) : Prop :=
  ∃ a b, cs = a ++ '/' :: '/' :: b ∧ Even (a.count '"')

/-- A comment starts at this place of the text. -/
def CommentAt (cs : List Char) (i : Nat) : Prop :=
  ['/', '/'] <+: cs.drop i ∧ Even ((cs.take i).count '"')

theorem commentAt_iff :
    CommentAt cs i ↔ ∃ a b, cs = a ++ '/' :: '/' :: b ∧ a.length = i ∧ Even (a.count '"') := by
  constructor
  · rintro ⟨⟨b, hb⟩, heven⟩
    have hi : i < cs.length := by
      have hlength := congrArg List.length hb
      simp only [List.length_append, List.length_cons, List.length_drop] at hlength
      omega
    refine ⟨cs.take i, b, ?_, by rw [List.length_take]; omega, heven⟩
    calc cs = cs.take i ++ cs.drop i := (List.take_append_drop i cs).symm
      _ = cs.take i ++ '/' :: '/' :: b := by rw [← hb]; rfl
  · rintro ⟨a, b, rfl, rfl, heven⟩
    rw [CommentAt, List.drop_left, List.take_left]
    exact ⟨⟨b, rfl⟩, heven⟩

theorem hasComment_iff : HasComment cs ↔ ∃ i, CommentAt cs i := by
  simp only [commentAt_iff]
  constructor
  · rintro ⟨a, b, h, heven⟩
    exact ⟨a.length, a, b, h, rfl, heven⟩
  · rintro ⟨i, a, b, h, -, heven⟩
    exact ⟨a, b, h, heven⟩

theorem HasComment.of_isPrefix (h : HasComment a) (hab : a <+: b) : HasComment b := by
  obtain ⟨a, c, rfl, heven⟩ := h
  obtain ⟨d, rfl⟩ := hab
  exact ⟨a, c ++ d, by simp, heven⟩

theorem not_hasComment_of_not_mem (h : '/' ∉ cs) : ¬ HasComment cs := by
  rintro ⟨a, b, rfl, -⟩
  exact h (by simp)

instance (quoted : Bool) (cs : List Char) : Decidable (QuoteOpen quoted cs) :=
  inferInstanceAs (Decidable (_ ↔ _))

@[simp] theorem quoteOpen_nil : QuoteOpen quoted [] ↔ quoted = true := by
  simp [QuoteOpen]

theorem quoteOpen_cons : QuoteOpen quoted (x :: cs) ↔ QuoteOpen (quoted ^^ x == '"') cs := by
  unfold QuoteOpen
  by_cases hx : x = '"'
  · subst hx
    rw [List.count_cons_self, Nat.even_add_one]
    cases quoted <;> simp
  · rw [List.count_cons_of_ne hx, beq_false_of_ne hx, Bool.xor_false]

/-! ## The reader, character by character -/

/-- The reader goes on, unless a comment starts right here. -/
theorem beforeComment?_cons (h : quoted = false → x = '/' → cs.head? ≠ some '/') :
    beforeComment? quoted (x :: cs) = (beforeComment? (quoted ^^ x == '"') cs).map (x :: ·) := by
  rw [beforeComment?]
  rintro rest rfl rfl rfl
  exact h rfl rfl rfl

/-- The reader is done, or goes on. -/
theorem beforeComment?_cons_cases (quoted : Bool) (x : Char) (cs : List Char) :
    beforeComment? quoted (x :: cs) = some [] ∨
      beforeComment? quoted (x :: cs) = (beforeComment? (quoted ^^ x == '"') cs).map (x :: ·) := by
  by_cases hstart : quoted = false ∧ x = '/' ∧ cs.head? = some '/'
  · obtain ⟨rfl, rfl, hhead⟩ := hstart
    obtain ⟨rest, rfl⟩ := List.head?_eq_some_iff.1 hhead
    exact .inl rfl
  · exact .inr (beforeComment?_cons fun hq hx hh => hstart ⟨hq, hx, hh⟩)

/-- The reader goes on where it would have gone on before, if no slash comes next. -/
theorem beforeComment?_cons_append
    (h : ∀ rest, quoted = false → x = '/' → a = '/' :: rest → False) (hb : b.head? ≠ some '/') :
    beforeComment? quoted (x :: a ++ b) =
      (beforeComment? (quoted ^^ x == '"') (a ++ b)).map (x :: ·) := by
  refine beforeComment?_cons fun hq hx hhead => ?_
  cases a with
  | nil => exact hb hhead
  | cons y a =>
    obtain rfl : y = '/' := Option.some.inj hhead
    exact h a hq hx rfl

/-- What is found stands in front of two slashes that are not quoted. -/
theorem append_of_beforeComment? (h : beforeComment? quoted cs = some b) :
    ∃ c, cs = b ++ '/' :: '/' :: c ∧ ¬ QuoteOpen quoted b := by
  fun_induction beforeComment? quoted cs generalizing b with
  | case1 => exact absurd h.symm (Option.some_ne_none b)
  | case2 rest =>
    obtain rfl := Option.some.inj h
    exact ⟨rest, rfl, quoteOpen_nil.not.2 Bool.false_ne_true⟩
  | case3 quoted x cs _ ih =>
    obtain ⟨b, hb, rfl⟩ := Option.map_eq_some_iff.1 h
    obtain ⟨c, rfl, hopen⟩ := ih hb
    exact ⟨c, rfl, quoteOpen_cons.not.2 hopen⟩

/-- Two slashes that are not quoted do not escape the reader. -/
theorem beforeComment?_ne_none (h : ¬ QuoteOpen quoted a) :
    beforeComment? quoted (a ++ '/' :: '/' :: c) ≠ none := by
  induction a generalizing quoted with
  | nil =>
    obtain rfl : quoted = false := by simpa using h
    exact nofun
  | cons x a ih =>
    rcases beforeComment?_cons_cases quoted x (a ++ '/' :: '/' :: c) with hdone | hnext
    · rw [List.cons_append, hdone]
      exact Option.some_ne_none []
    · rw [List.cons_append, hnext, ne_eq, Option.map_eq_none_iff]
      exact ih (quoteOpen_cons.not.1 h)

/-- Outside of quotes, the reader finds a comment exactly where there is one. -/
theorem beforeComment?_eq_none_iff : beforeComment? false cs = none ↔ ¬ HasComment cs := by
  constructor
  · rintro h ⟨a, b, rfl, heven⟩
    exact beforeComment?_ne_none (by simp [QuoteOpen, heven]) h
  · intro h
    rw [Option.eq_none_iff_forall_ne_some]
    intro b hb
    obtain ⟨c, rfl, hopen⟩ := append_of_beforeComment? hb
    exact h ⟨b, c, rfl, by simpa [QuoteOpen] using hopen⟩

/-- What is found is no longer than what stands in front of any comment. -/
theorem length_le_of_beforeComment? (h : beforeComment? quoted (a ++ '/' :: '/' :: c) = some b)
    (ha : ¬ QuoteOpen quoted a) : b.length ≤ a.length := by
  induction a generalizing quoted b with
  | nil =>
    obtain rfl : quoted = false := by simpa using ha
    obtain rfl : [] = b := Option.some.inj h
    exact Nat.le_refl 0
  | cons x a ih =>
    rcases beforeComment?_cons_cases quoted x (a ++ '/' :: '/' :: c) with hdone | hnext
    · rw [List.cons_append, hdone] at h
      obtain rfl : [] = b := Option.some.inj h
      exact Nat.zero_le _
    · rw [List.cons_append, hnext, Option.map_eq_some_iff] at h
      obtain ⟨b, hb, rfl⟩ := h
      exact Nat.succ_le_succ (ih hb (quoteOpen_cons.not.1 ha))

/-- Outside of quotes, the reader finds the first comment. -/
theorem isLeast_of_beforeComment? (h : beforeComment? false cs = some b) :
    b = cs.take b.length ∧ IsLeast {i | CommentAt cs i} b.length := by
  obtain ⟨c, hcs, hopen⟩ := append_of_beforeComment? h
  have heven : Even (b.count '"') := by simpa [QuoteOpen] using hopen
  refine ⟨?_, commentAt_iff.2 ⟨b, c, hcs, rfl, heven⟩, fun i hi => ?_⟩
  · rw [hcs, List.take_left]
  · obtain ⟨a, d, rfl, rfl, heven⟩ := commentAt_iff.1 hi
    exact length_le_of_beforeComment? h (by simp [QuoteOpen, heven])

theorem beforeComment?_of_isLeast (h : IsLeast {i | CommentAt cs i} i) :
    beforeComment? false cs = some (cs.take i) := by
  cases hb : beforeComment? false cs with
  | none => exact absurd (hasComment_iff.2 ⟨i, h.1⟩) (beforeComment?_eq_none_iff.1 hb)
  | some b =>
    obtain ⟨hb, hleast⟩ := isLeast_of_beforeComment? hb
    rw [h.unique hleast, ← hb]

/-! ## What is cut off -/

theorem stripComment_of_not_hasComment (h : ¬ HasComment cs) : stripComment cs = cs := by
  rw [stripComment, beforeComment?_eq_none_iff.2 h]

theorem stripComment_of_blank (h : IsLeast {i | CommentAt cs i} i)
    (hblank : ∀ x ∈ cs.take i, isSpace x = true) : stripComment cs = cs := by
  rw [stripComment, beforeComment?_of_isLeast h]
  exact if_pos (List.all_eq_true.2 hblank)

theorem stripComment_of_text (h : IsLeast {i | CommentAt cs i} i)
    (htext : ∃ x ∈ cs.take i, isSpace x = false) : stripComment cs = trimEnd (cs.take i) := by
  have hall : ¬ (cs.take i).all isSpace = true := by
    intro hall
    obtain ⟨x, hx, hspace⟩ := htext
    rw [List.all_eq_true.1 hall x hx] at hspace
    exact absurd hspace nofun
  rw [stripComment, beforeComment?_of_isLeast h]
  exact if_neg hall

/-- In front of the first comment there is none. -/
theorem not_hasComment_take (h : IsLeast {i | CommentAt cs i} i) : ¬ HasComment (cs.take i) := by
  rintro ⟨a, b, hab, heven⟩
  have hcs : cs = a ++ '/' :: '/' :: (b ++ cs.drop i) :=
    calc cs = cs.take i ++ cs.drop i := (List.take_append_drop i cs).symm
      _ = a ++ '/' :: '/' :: (b ++ cs.drop i) := by rw [hab, List.append_assoc]; rfl
  have hle : i ≤ a.length := h.2 (commentAt_iff.2 ⟨a, _, hcs, rfl, heven⟩)
  have hlength := congrArg List.length hab
  simp only [List.length_append, List.length_cons, List.length_take] at hlength
  omega

/-- Nothing more is cut off the second time. -/
theorem stripComment_stripComment (cs : List Char) :
    stripComment (stripComment cs) = stripComment cs := by
  cases hb : beforeComment? false cs with
  | none =>
    have hsame := stripComment_of_not_hasComment (beforeComment?_eq_none_iff.1 hb)
    rw [hsame, hsame]
  | some b =>
    have hleast := (isLeast_of_beforeComment? hb).2
    by_cases hblank : ∀ x ∈ cs.take b.length, isSpace x = true
    · have hsame := stripComment_of_blank hleast hblank
      rw [hsame, hsame]
    · have htext : ∃ x ∈ cs.take b.length, isSpace x = false := by simpa using hblank
      rw [stripComment_of_text hleast htext]
      exact stripComment_of_not_hasComment fun h =>
        not_hasComment_take hleast (h.of_isPrefix (trimEnd_isPrefix _))

/-! ## Texts around a comment -/

/-- Text without quotes and slashes has no part in where a comment starts. -/
theorem beforeComment?_append (ha : ∀ x ∈ a, x ≠ '"' ∧ x ≠ '/') :
    beforeComment? quoted (a ++ cs) = (beforeComment? quoted cs).map (a ++ ·) := by
  induction a with
  | nil => simp
  | cons x a ih =>
    obtain ⟨hquote, hslash⟩ := ha x List.mem_cons_self
    rw [List.cons_append, beforeComment?_cons fun _ hx => absurd hx hslash,
      beq_false_of_ne hquote, Bool.xor_false, ih fun y hy => ha y (List.mem_cons_of_mem x hy),
      Option.map_map]
    rfl

/-- Nor has one more character behind the text, if it is no slash. -/
theorem beforeComment?_concat (hx : x ≠ '/') :
    beforeComment? quoted (cs ++ [x]) = beforeComment? quoted cs := by
  fun_induction beforeComment? quoted cs with
  | case1 quoted => rw [List.nil_append, beforeComment?_cons fun _ h => absurd h hx]; rfl
  | case2 rest => rfl
  | case3 quoted y cs hstart ih =>
    have hhead : [x].head? ≠ some '/' := fun h => hx (Option.some.inj h)
    rw [beforeComment?_cons_append hstart hhead, ih]

/-- Behind a text without a comment, the reader goes on with the flag that the text leads to. -/
theorem beforeComment?_append_of_none (ha : beforeComment? quoted a = none)
    (hb : b.head? ≠ some '/') :
    beforeComment? quoted (a ++ b) =
      (beforeComment? (decide (QuoteOpen quoted a)) b).map (a ++ ·) := by
  fun_induction beforeComment? quoted a with
  | case1 quoted => simp
  | case2 rest => exact absurd ha (Option.some_ne_none _)
  | case3 quoted x a hstart ih =>
    have hopen : decide (QuoteOpen quoted (x :: a)) = decide (QuoteOpen (quoted ^^ x == '"') a) :=
      decide_eq_decide.2 quoteOpen_cons
    rw [beforeComment?_cons_append hstart hb, ih (Option.map_eq_none_iff.1 ha), Option.map_map,
      hopen]
    rfl

/-- A remark behind white space, and what is left of its line. -/
theorem stripComment_append_remark (htext : ∃ x ∈ a, isSpace x = false)
    (heven : Even (a.count '"')) (hnone : ¬ HasComment a) (hw : w ≠ [])
    (hblank : ∀ x ∈ w, isSpace x = true) :
    stripComment (a ++ (w ++ '/' :: '/' :: c)) = trimEnd (a ++ w) := by
  have hplain : ∀ x ∈ w, x ≠ '"' ∧ x ≠ '/' := by
    intro x hx
    have hspace := hblank x hx
    constructor
    · rintro rfl
      exact absurd hspace (by decide)
    · rintro rfl
      exact absurd hspace (by decide)
  have hhead : (w ++ '/' :: '/' :: c).head? ≠ some '/' := by
    obtain ⟨x, w, rfl⟩ := List.exists_cons_of_ne_nil hw
    exact fun h => (hplain x List.mem_cons_self).2 (Option.some.inj h)
  have hopen : ¬ QuoteOpen false a := by simp [QuoteOpen, heven]
  have hbefore : beforeComment? false (a ++ (w ++ '/' :: '/' :: c)) = some (a ++ w) := by
    rw [beforeComment?_append_of_none (beforeComment?_eq_none_iff.2 hnone) hhead,
      decide_eq_false hopen, beforeComment?_append hplain]
    simp [beforeComment?]
  have hall : ¬ (a ++ w).all isSpace = true := by
    intro hall
    obtain ⟨x, hx, hspace⟩ := htext
    rw [List.all_eq_true.1 hall x (List.mem_append_left w hx)] at hspace
    exact absurd hspace nofun
  rw [stripComment, hbefore]
  exact if_neg hall

theorem classify_append_remark {line gap : String} (remark : String)
    (htext : ∃ x ∈ line.toList, isSpace x = false) (heven : Even (line.toList.count '"'))
    (hnone : ¬ HasComment line.toList) (hgap : gap ≠ "")
    (hblank : ∀ x ∈ gap.toList, isSpace x = true) :
    classify (line ++ gap ++ "//" ++ remark) = classify line := by
  have hlist : (line ++ gap ++ "//" ++ remark).toList =
      line.toList ++ (gap.toList ++ '/' :: '/' :: remark.toList) := by simp
  have hw : gap.toList ≠ [] := by simpa using hgap
  rw [classify, classify, hlist, stripComment_append_remark htext heven hnone hw hblank,
    stripComment_of_not_hasComment hnone, trim_trimEnd, trim_append_blanks hblank]

/-- Trailing comments are found where they are, and make no difference. A line stays as it is where
no comment starts in it, or nothing but white space stands in front of the first one; otherwise what
stands in front of the first one is left, without white space at its end. The second time nothing is
cut off. And a line that is no comment, and has its quotes closed, is the same directive with a
remark behind it as without. -/
theorem trailing_comments (line : String) :
    ((¬ ∃ i, CommentAt line.toList i) → stripComment line.toList = line.toList) ∧
    (∀ i, IsLeast {i | CommentAt line.toList i} i →
      ((∀ x ∈ line.toList.take i, isSpace x = true) → stripComment line.toList = line.toList) ∧
      ((∃ x ∈ line.toList.take i, isSpace x = false) →
        stripComment line.toList = trimEnd (line.toList.take i))) ∧
    stripComment (stripComment line.toList) = stripComment line.toList ∧
    ∀ gap remark : String, (∃ x ∈ line.toList, isSpace x = false) →
      Even (line.toList.count '"') → (¬ ∃ i, CommentAt line.toList i) →
      gap ≠ "" → (∀ x ∈ gap.toList, isSpace x = true) →
        classify (line ++ gap ++ "//" ++ remark) = classify line := by
  rw [← hasComment_iff]
  refine ⟨stripComment_of_not_hasComment,
    fun i hi => ⟨stripComment_of_blank hi, stripComment_of_text hi⟩,
    stripComment_stripComment line.toList, ?_⟩
  intro gap remark htext heven hnone hgap hblank
  exact classify_append_remark remark htext heven hnone hgap hblank

theorem trailing_comments_behind_slash :
    classify ("#define A \"b // c\"/" ++ "\t" ++ "//" ++ "/ \"") =
      define "A" (some "\"b // c\"/") := by
  have hline : classify "#define A \"b // c\"/" = define "A" (some "\"b // c\"/") := by
    decide +kernel
  have hnone : ¬ ∃ i, CommentAt "#define A \"b // c\"/".toList i := by
    rw [← hasComment_iff, ← beforeComment?_eq_none_iff]
    decide +kernel
  have hsame := (trailing_comments "#define A \"b // c\"/").2.2.2 "\t" "/ \""
    ⟨'#', by decide, by decide⟩ (by decide) hnone (by decide)
    (List.all_eq_true.1 (by decide))
  exact hsame.trans hline

end BoardLint.Directive
