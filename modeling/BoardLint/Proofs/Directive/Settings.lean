import BoardLint.Proofs.Directive.Openings

/-!
# Settings and comments that carry meaning

A line that does not start with a sign is read as a build setting, or as one of the comments that
carry meaning, if it is one of the texts that write it (`classify_eq_iff_of_plain`). What may stand
inside of a value is not restricted: the first comma or equals sign behind the name ends the name,
and only the last parenthesis of the line closes a call.
-/

namespace BoardLint.Directive

open Text

variable {cs : List Char} {d : Directive} {kind : SettingKind} {w v path : String}

/-! ## Behind the first word of a setting -/

/-- `(NAME, VALUE)` -/
def arguments (w v : String) : Language Char :=
  blanks * (lit "(" * (blanks * (word w * (blanks * (lit "," * (padded v * lit ")"))))))

/-- `NAME=VALUE`, behind white space. -/
def assignment (w v : String) : Language Char :=
  gap * (word w * (blanks * (lit "=" * padded v)))

theorem startsOff_word_of_mem_arguments (h : cs ∈ arguments w v) : StartsOff isWordChar cs :=
  startsOff_word_of_mem_blanks_mul (fun _ => startsOff_of_mem_lit_mul (by decide)) h

/-- A text with the word `_default` in front or not. What comes behind the word tells whether it is
there, unless that could be read as more of the word itself. -/
theorem mem_ending_mul {A : Language Char} (hA : ∀ r ∈ A, StartsOff isWordChar r) :
    cs ∈ ending kind * A ↔ ∃ r, settingKind cs = (kind, r) ∧ r ∈ A := by
  constructor
  · intro h
    cases kind with
    | fixed =>
      rw [ending, one_mul] at h
      -- the underscore is part of a word, and no text of `A` starts with such a part
      have hnone : dropStart? "_default".toList cs = none := by
        rw [Option.eq_none_iff_forall_ne_some]
        intro r hr
        obtain rfl := dropStart?_eq_some_iff.1 hr
        exact absurd (hA _ h '_' rfl) (by decide)
      exact ⟨cs, by rw [settingKind, hnone], h⟩
    | fallback =>
      obtain ⟨r, rfl, hr⟩ := mem_lit_mul.1 h
      exact ⟨r, by rw [settingKind, dropStart?_append], hr⟩
  · rintro ⟨r, h, hr⟩
    unfold settingKind at h
    split at h
    · rename_i r' hr'
      obtain ⟨rfl, rfl⟩ := Prod.mk.inj h
      exact mem_lit_mul.2 ⟨r', dropStart?_eq_some_iff.1 hr', hr⟩
    · obtain ⟨rfl, rfl⟩ := Prod.mk.inj h
      rw [ending, one_mul]
      exact hr

theorem mem_lit_mul_iff_dropStart? {s : String} {A : Language Char} :
    cs ∈ lit s * A ↔ ∃ r, dropStart? s.toList cs = some r ∧ r ∈ A := by
  rw [mem_lit_mul]
  exact exists_congr fun r => and_congr_left fun _ => dropStart?_eq_some_iff.symm

theorem mem_mul_lit_iff_dropEnd? {s : String} {A : Language Char} :
    cs ∈ A * lit s ↔ ∃ r, dropEnd? s.toList cs = some r ∧ r ∈ A := by
  rw [mem_mul_lit]
  exact exists_congr fun r => and_congr_left fun _ => dropEnd?_eq_some_iff.symm

theorem mem_arguments_iff :
    cs ∈ arguments w v ↔ ∃ a, dropStart? ['('] (trimStart cs) = some a ∧
      ∃ b, takeWord? (trimStart a) = some (w.toList, b) ∧
        ∃ c, dropStart? [','] (trimStart b) = some c ∧
          ∃ e, dropEnd? [')'] c = some e ∧ filled? e = some v := by
  have hcomma : ∀ r ∈ blanks * (lit "," * (padded v * lit ")")), StartsOff isWordChar r :=
    fun _ => startsOff_word_of_mem_blanks_mul fun _ => startsOff_of_mem_lit_mul (by decide)
  unfold arguments
  rw [mem_blanks_mul fun _ => startsOff_of_mem_lit_mul (by decide), mem_lit_mul_iff_dropStart?]
  refine exists_congr fun a => and_congr_right fun _ => ?_
  rw [mem_blanks_mul fun _ => startsOff_space_of_mem_word_mul, mem_word_mul hcomma]
  refine exists_congr fun b => and_congr_right fun _ => ?_
  rw [mem_blanks_mul fun _ => startsOff_of_mem_lit_mul (by decide), mem_lit_mul_iff_dropStart?]
  refine exists_congr fun c => and_congr_right fun _ => ?_
  rw [mem_mul_lit_iff_dropEnd?]
  exact exists_congr fun e => and_congr_right fun _ => filled?_eq_some_iff.symm

theorem mem_assignment_iff :
    cs ∈ assignment w v ↔ ∃ a, dropSpaces? cs = some a ∧
      ∃ b, takeWord? a = some (w.toList, b) ∧
        ∃ c, dropStart? ['='] (trimStart b) = some c ∧ filled? c = some v := by
  have hequals : ∀ r ∈ blanks * (lit "=" * padded v), StartsOff isWordChar r :=
    fun _ => startsOff_word_of_mem_blanks_mul fun _ => startsOff_of_mem_lit_mul (by decide)
  unfold assignment
  rw [mem_gap_mul fun _ => startsOff_space_of_mem_word_mul]
  refine exists_congr fun a => and_congr_right fun _ => ?_
  rw [mem_word_mul hequals]
  refine exists_congr fun b => and_congr_right fun _ => ?_
  rw [mem_blanks_mul fun _ => startsOff_of_mem_lit_mul (by decide), mem_lit_mul_iff_dropStart?]
  exact exists_congr fun c => and_congr_right fun _ => filled?_eq_some_iff.symm

theorem callSetting?_eq_some_iff :
    callSetting? cs = some (setting .call kind w v) ↔ cs ∈ ending kind * arguments w v := by
  rw [mem_ending_mul fun _ => startsOff_word_of_mem_arguments]
  simp only [callSetting?, Option.bind_eq_bind, Option.bind_eq_some_iff]
  constructor
  · rintro ⟨a, ha, ⟨name, b⟩, hb, c, hc, e, he, v', hv, h⟩
    obtain ⟨-, hkind, rfl, rfl⟩ := setting.inj (Option.some.inj h)
    refine ⟨(settingKind cs).2, by rw [← hkind], mem_arguments_iff.2 ⟨a, ha, b, ?_, ?_⟩⟩
    · rwa [String.toList_ofList]
    · exact ⟨c, hc, e, he, hv⟩
  · rintro ⟨r, hr, hmem⟩
    obtain ⟨a, ha, b, hb, c, hc, e, he, hv⟩ := mem_arguments_iff.1 hmem
    rw [hr]
    exact ⟨a, ha, (w.toList, b), hb, c, hc, e, he, v, hv, by rw [String.ofList_toList]⟩

theorem commentSetting?_eq_some_iff :
    commentSetting? cs = some (setting .comment kind w v) ↔ cs ∈ ending kind * assignment w v := by
  rw [mem_ending_mul (A := assignment w v) fun _ => startsOff_word_of_mem_gap_mul]
  simp only [commentSetting?, Option.bind_eq_bind, Option.bind_eq_some_iff]
  constructor
  · rintro ⟨a, ha, ⟨name, b⟩, hb, c, hc, v', hv, h⟩
    obtain ⟨-, hkind, rfl, rfl⟩ := setting.inj (Option.some.inj h)
    refine ⟨(settingKind cs).2, by rw [← hkind], mem_assignment_iff.2 ⟨a, ha, b, ?_, ?_⟩⟩
    · rwa [String.toList_ofList]
    · exact ⟨c, hc, hv⟩
  · rintro ⟨r, hr, hmem⟩
    obtain ⟨a, ha, b, hb, c, hc, hv⟩ := mem_assignment_iff.1 hmem
    rw [hr]
    exact ⟨a, ha, (w.toList, b), hb, c, hc, v, hv, by rw [String.ofList_toList]⟩

/-! ## Comments -/

/-- What follows the slashes of a comment and white space. -/
def remark : Directive → Language Char
  | boardDetection => lit "For board detection" * anything
  | includeSuggestion path =>
    lit "This header may be included by other board headers as" *
      (blanks * (quoted path * anything))
  | setting .comment kind w v => lit "pico_cmake_set" * (ending kind * assignment w v)
  | _ => 0

/-- A text does not start in two ways that differ in their first characters. -/
theorem dropStart?_eq_none {s t : String} {r : List Char}
    (hne : s.toList.head?.isSome ∧ t.toList.head?.isSome ∧ s.toList.head? ≠ t.toList.head?)
    (h : dropStart? s.toList cs = some r) : dropStart? t.toList cs = none := by
  rw [Option.eq_none_iff_forall_ne_some]
  intro r' h'
  have heq := (dropStart?_eq_some_iff.1 h).symm.trans (dropStart?_eq_some_iff.1 h')
  obtain ⟨hs, ht, hst⟩ := hne
  obtain ⟨x, hx⟩ := Option.isSome_iff_exists.1 hs
  obtain ⟨y, hy⟩ := Option.isSome_iff_exists.1 ht
  have hhead := congrArg List.head? heq
  rw [List.head?_append, List.head?_append, hx, hy] at hhead
  exact hst (hx.trans (hhead.trans hy.symm))

theorem mem_blanks_mul_quoted_iff :
    cs ∈ blanks * (quoted path * anything) ↔
      ∃ rest, takeQuoted? (trimStart cs) = some (path.toList, rest) := by
  rw [mem_blanks_mul fun _ => startsOff_space_of_mem_quoted_mul, mem_quoted_mul]
  exact exists_congr fun rest => and_iff_left trivial

theorem mem_remark_of_ofComment (hd : d ≠ unrecognized) (h : ofComment cs = d) :
    trimStart cs ∈ d.remark := by
  simp only [ofComment] at h
  split at h
  · rename_i hstart
    obtain ⟨r, hr⟩ := Option.isSome_iff_exists.1 hstart
    subst h
    exact mem_lit_mul_iff_dropStart?.2 ⟨r, hr, trivial⟩
  · split at h
    · rename_i r hr
      split at h
      · rename_i quote rest hquote
        subst h
        refine mem_lit_mul_iff_dropStart?.2 ⟨r, hr, mem_blanks_mul_quoted_iff.2 ⟨rest, ?_⟩⟩
        rw [hquote, String.toList_ofList]
      · exact absurd h.symm hd
    · obtain ⟨r, hr, hsetting⟩ := Option.bind_eq_some_iff.1 ((getD_eq_iff hd).1 h)
      obtain ⟨kind, w, v, rfl⟩ := eq_setting_of_commentSetting? hsetting
      exact mem_lit_mul_iff_dropStart?.2 ⟨r, hr, commentSetting?_eq_some_iff.1 hsetting⟩

theorem ofComment_of_mem_remark (h : trimStart cs ∈ d.remark) : ofComment cs = d := by
  unfold remark at h
  split at h
  · obtain ⟨r, hr, -⟩ := mem_lit_mul_iff_dropStart?.1 h
    simp only [ofComment, hr, Option.isSome_some, if_true]
  · obtain ⟨r, hr, hmem⟩ := mem_lit_mul_iff_dropStart?.1 h
    obtain ⟨rest, hquote⟩ := mem_blanks_mul_quoted_iff.1 hmem
    have hfor := dropStart?_eq_none (t := "For board detection") (by decide) hr
    simp only [ofComment, hr, hfor, hquote, Option.isSome_none, Bool.false_eq_true, if_false,
      String.ofList_toList]
  · obtain ⟨r, hr, hmem⟩ := mem_lit_mul_iff_dropStart?.1 h
    have hfor := dropStart?_eq_none (t := "For board detection") (by decide) hr
    have hthis := dropStart?_eq_none
      (t := "This header may be included by other board headers as") (by decide) hr
    simp only [ofComment, hr, hfor, hthis, Option.isSome_none, Bool.false_eq_true, if_false,
      Option.bind_some, commentSetting?_eq_some_iff.2 hmem, Option.getD_some]
  · exact absurd h (Language.notMem_zero _)

/-! ## Lines that do not start with a sign -/

theorem startsOff_space_of_mem_remark (h : cs ∈ d.remark) : StartsOff isSpace cs := by
  unfold remark at h
  split at h
  · exact startsOff_of_mem_lit_mul (by decide +kernel) h
  · exact startsOff_of_mem_lit_mul (by decide +kernel) h
  · exact startsOff_of_mem_lit_mul (by decide +kernel) h
  · exact absurd h (Language.notMem_zero _)

theorem spelling_of_slashes (ho : d.opening? = some .slashes) :
    d.spelling = lit "//" * (blanks * d.remark) := by
  cases d with
  | boardDetection => simp only [spelling, remark, mul_assoc]
  | includeSuggestion path => simp only [spelling, remark, mul_assoc]
  | setting form kind w v =>
    cases form with
    | comment => simp only [spelling, remark, assignment, mul_assoc]
    | call => exact absurd ho nofun
  | _ => exact absurd ho nofun

theorem ofTrimmed_eq_iff_mem_of_slashes (ho : d.opening? = some .slashes) :
    ofTrimmed cs = d ↔ cs ∈ d.spelling := by
  rw [ofTrimmed_eq_iff_of_slashes ho, spelling_of_slashes ho, mem_lit_mul]
  refine exists_congr fun r => and_congr_right fun _ => ?_
  rw [mem_blanks_mul fun _ => startsOff_space_of_mem_remark]
  exact ⟨mem_remark_of_ofComment (ne_unrecognized ho), ofComment_of_mem_remark⟩

theorem spelling_call (kind : SettingKind) (w v : String) :
    (setting .call kind w v).spelling =
      lit "pico_board_cmake_set" * (ending kind * arguments w v) := by
  simp only [spelling, arguments, mul_assoc]

theorem ofTrimmed_eq_call_iff :
    ofTrimmed cs = setting .call kind w v ↔ cs ∈ (setting .call kind w v).spelling := by
  rw [ofTrimmed_eq_iff_of_call rfl, spelling_call, mem_lit_mul]
  exact exists_congr fun r => and_congr_right fun _ => callSetting?_eq_some_iff

theorem ofTrimmed_eq_iff_mem_of_plain (ho : d.opening? = some .slashes ∨ d.opening? = some .call) :
    ofTrimmed cs = d ↔ cs ∈ d.spelling := by
  rcases ho with ho | ho
  · exact ofTrimmed_eq_iff_mem_of_slashes ho
  · cases d with
    | setting form kind w v =>
      cases form with
      | comment => exact absurd ho nofun
      | call => exact ofTrimmed_eq_call_iff
    | _ => exact absurd ho nofun

/-- A line is read as a setting or as a comment that carries meaning if it is one of the texts that
write it, and a line that starts with no sign and writes none is unrecognized. -/
theorem classify_eq_iff_of_plain (line : String) :
    (∀ d : Directive, d.opening? = some .slashes ∨ d.opening? = some .call →
      (classify line = d ↔ trim (stripComment line.toList) ∈ d.spelling)) ∧
    ((¬ ∃ r, trim (stripComment line.toList) = '#' :: r) →
      (∀ d : Directive, d.opening? = some .slashes ∨ d.opening? = some .call →
        trim (stripComment line.toList) ∉ d.spelling) →
      classify line = unrecognized) := by
  refine ⟨fun d hd => ofTrimmed_eq_iff_mem_of_plain hd, ?_⟩
  intro hplain hnone
  by_contra hd
  have hopening : (classify line).opening? = some .slashes ∨
      (classify line).opening? = some .call := by
    rcases ofTrimmed_cases hd rfl with ⟨r, hr, -⟩ | ⟨r, -, h⟩ | ⟨r, -, h⟩
    · exact absurd ⟨r, hr⟩ hplain
    · exact .inl (opening?_of_ofComment hd h)
    · exact .inr (opening?_of_callSetting? h)
  exact hnone _ hopening ((ofTrimmed_eq_iff_mem_of_plain hopening).1 rfl)

theorem classify_eq_iff_of_nested_call :
    (setting .call .fallback "A" "(B, 1)").opening? = some .call ∧
      (classify "pico_board_cmake_set_default(A, (B, 1)) // C" =
          setting .call .fallback "A" "(B, 1)" ↔
        "pico_board_cmake_set_default(A, (B, 1))".toList ∈
          (setting .call .fallback "A" "(B, 1)").spelling) ∧
      (¬ ∃ r, "// pico_cmake_setA=1".toList = '#' :: r) ∧
      (∀ d : Directive, d.opening? = some .slashes ∨ d.opening? = some .call →
        "// pico_cmake_setA=1".toList ∉ d.spelling) ∧
      classify "// pico_cmake_setA=1" = unrecognized := by
  have hcall : trim (stripComment "pico_board_cmake_set_default(A, (B, 1)) // C".toList) =
      "pico_board_cmake_set_default(A, (B, 1))".toList := by decide +kernel
  have hcomment : trim (stripComment "// pico_cmake_setA=1".toList) =
      "// pico_cmake_setA=1".toList := by decide +kernel
  have hplain : ¬ ∃ r, "// pico_cmake_setA=1".toList = '#' :: r := by
    rintro ⟨r, hr⟩
    have hslash : '/' = '#' := (List.cons.inj hr).1
    exact absurd hslash (by decide)
  have hnone : ∀ d : Directive, d.opening? = some .slashes ∨ d.opening? = some .call →
      "// pico_cmake_setA=1".toList ∉ d.spelling := by
    intro d hd hmem
    rw [← hcomment, ← (classify_eq_iff_of_plain "// pico_cmake_setA=1").1 d hd] at hmem
    have hunrecognized : classify "// pico_cmake_setA=1" = unrecognized := by decide +kernel
    obtain rfl := hmem.symm.trans hunrecognized
    exact hd.elim nofun nofun
  refine ⟨rfl, ?_, hplain, hnone, ?_⟩
  · exact hcall ▸
      (classify_eq_iff_of_plain "pico_board_cmake_set_default(A, (B, 1)) // C").1 _ (.inr rfl)
  · refine (classify_eq_iff_of_plain "// pico_cmake_setA=1").2 ?_ ?_
    · rwa [hcomment]
    · rwa [hcomment]

end BoardLint.Directive
