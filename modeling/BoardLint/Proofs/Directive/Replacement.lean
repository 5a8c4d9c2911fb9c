import BoardLint.Issue
import BoardLint.Proofs.Directive.Settings
import BoardLint.Proofs.Directive.Trailing

/-!
# What replaces a setting in a comment

A setting in the form of a comment is reported together with the call that should replace it
(`replacement`). The two forms are read differently in one respect: what is written in a comment is
all read, and behind a call a comment is cut off. So the call means the same as long as no comment
starts in the value, and otherwise it never does (`classify_replacement_iff`): a call that has lost
its end is shorter than any that could write the setting.
-/

namespace BoardLint.Directive

open Text

variable {cs : List Char} {kind : SettingKind} {w v name value : String}

/-- The call that is to replace a setting in the form of a comment. -/
def replacement (kind : SettingKind) (name value : String) : String :=
  kind.callWord ++ "(" ++ name ++ ", " ++ value ++ ")"

/-- It is what the report of the setting asks for. -/
theorem message_legacySetting (kind : SettingKind) (name value : String) :
    (Issue.legacySetting kind name value).message =
      "Legacy `// " ++ kind.commentWord ++ " " ++ name ++ "=" ++ value ++ "` comment, " ++
        "use `" ++ replacement kind name value ++ "` instead" := by
  have hend : ")` instead" = ")" ++ "` instead" := by decide
  unfold Issue.message replacement
  dsimp only
  rw [hend]
  simp only [String.append_assoc]
  rfl

/-! ## Calls as texts -/

theorem mem_ending_iff :
    cs ∈ ending kind ↔ kind.callWord.toList = "pico_board_cmake_set".toList ++ cs := by
  cases kind with
  | fixed =>
    rw [ending, Language.mem_one, SettingKind.callWord]
    exact List.self_eq_append_right.symm
  | fallback =>
    show cs = "_default".toList ↔
      "pico_board_cmake_set".toList ++ "_default".toList = "pico_board_cmake_set".toList ++ cs
    rw [List.append_cancel_left_eq, eq_comm]

/-- A call is its first word with its arguments. -/
theorem mem_spelling_call_iff :
    cs ∈ (setting .call kind w v).spelling ↔
      ∃ r ∈ arguments w v, cs = kind.callWord.toList ++ r := by
  rw [spelling_call, mem_lit_mul]
  constructor
  · rintro ⟨_, rfl, e, he, r, hr, rfl⟩
    exact ⟨r, hr, by rw [mem_ending_iff.1 he, List.append_assoc]⟩
  · rintro ⟨r, hr, rfl⟩
    obtain ⟨e, he⟩ : ∃ e, kind.callWord.toList = "pico_board_cmake_set".toList ++ e := by
      cases kind with
      | fixed => exact ⟨[], rfl⟩
      | fallback => exact ⟨"_default".toList, rfl⟩
    exact ⟨e ++ r, by rw [he, List.append_assoc], e, mem_ending_iff.2 he, r, hr, rfl⟩

/-- Arguments are not shorter than what they are made of. -/
theorem length_le_of_mem_arguments (h : cs ∈ arguments w v) :
    w.toList.length + v.toList.length + 3 ≤ cs.length := by
  obtain ⟨a, -, _, ⟨_, rfl, _, ⟨b, -, _, ⟨_, ⟨rfl, -⟩, _, ⟨c, -, _, ⟨_, rfl, _,
    ⟨p, ⟨hp, -⟩, _, rfl, rfl⟩, rfl⟩, rfl⟩, rfl⟩, rfl⟩, rfl⟩, rfl⟩ := h
  have hlength : v.toList.length ≤ p.length := hp ▸ length_trim_le p
  have hmarks : "(".toList.length = 1 ∧ ",".toList.length = 1 ∧ ")".toList.length = 1 := by decide
  simp only [List.length_append]
  omega

/-! ## The call as it is read -/

/-- What stands in front of the value. -/
def front (kind : SettingKind) (name : String) : List Char :=
  kind.callWord.toList ++ "(".toList ++ name.toList ++ ", ".toList

theorem toList_replacement :
    (replacement kind name value).toList = front kind name ++ value.toList ++ [')'] := by
  simp [replacement, front]

theorem startsOff_front_append : StartsOff isSpace (front kind name ++ cs) := by
  cases kind <;> exact startsOff_cons.2 (by decide)

/-- No quotes and no slashes, in a text that is known. -/
theorem plain_of_all (h : cs.all (fun x => x != '"' && x != '/') = true) :
    ∀ x ∈ cs, x ≠ '"' ∧ x ≠ '/' := by
  simpa using h

theorem plain_of_mem_front (hname : name.toList ∈ word name) :
    ∀ x ∈ front kind name, x ≠ '"' ∧ x ≠ '/' := by
  have hcall : ∀ kind : SettingKind, ∀ x ∈ kind.callWord.toList, x ≠ '"' ∧ x ≠ '/' := by
    intro kind
    cases kind <;> exact plain_of_all (by decide)
  have hword : ∀ x ∈ name.toList, x ≠ '"' ∧ x ≠ '/' := by
    intro x hx
    have hchar := hname.2.2 x hx
    constructor
    · rintro rfl
      exact absurd hchar (by decide +kernel)
    · rintro rfl
      exact absurd hchar (by decide +kernel)
  simp only [front, List.forall_mem_append]
  exact ⟨⟨⟨hcall kind, plain_of_all (by decide)⟩, hword⟩, plain_of_all (by decide)⟩

/-- A comment starts in the call exactly where one starts in the value. -/
theorem beforeComment?_replacement (hname : name.toList ∈ word name) :
    beforeComment? false (replacement kind name value).toList =
      (beforeComment? false value.toList).map (front kind name ++ ·) := by
  rw [toList_replacement, List.append_assoc, beforeComment?_append (plain_of_mem_front hname),
    beforeComment?_concat (by decide)]

/-- A call in which no comment starts is read as it is written. -/
theorem trim_stripComment_of_none (hname : name.toList ∈ word name)
    (h : beforeComment? false value.toList = none) :
    trim (stripComment (replacement kind name value).toList) =
      (replacement kind name value).toList := by
  rw [stripComment, beforeComment?_replacement hname, h, Option.map_none]
  refine trim_eq_self ?_ ?_
  · rw [toList_replacement, List.append_assoc]
    exact startsOff_front_append
  · rw [toList_replacement, EndsOff, List.getLast?_concat]
    rintro x hx
    obtain rfl := Option.some.inj hx
    decide

/-- A call in which a comment starts loses its end. -/
theorem length_trim_stripComment_lt (hname : name.toList ∈ word name) {b : List Char}
    (h : beforeComment? false value.toList = some b) :
    (trim (stripComment (replacement kind name value).toList)).length + 2 ≤
      (front kind name).length + value.toList.length := by
  have hfront : ((front kind name ++ b).all isSpace) = false := by
    cases kind <;> exact Bool.and_eq_false_imp.2 fun hp => absurd hp (by decide)
  rw [stripComment, beforeComment?_replacement hname, h, Option.map_some]
  dsimp only
  rw [hfront, if_neg Bool.false_ne_true]
  obtain ⟨c, hvalue, -⟩ := append_of_beforeComment? h
  have hlength := (length_trim_le _).trans (trimEnd_isPrefix (front kind name ++ b)).length_le
  have hvalue := congrArg List.length hvalue
  simp only [List.length_append, List.length_cons] at hlength hvalue
  omega

/-! ## Settings in comments -/

/-- What a comment writes is a word, and a value without white space at its ends. -/
theorem parts_of_comment {line : String}
    (h : classify line = setting .comment kind name value) :
    name.toList ∈ word name ∧ value.toList ∈ Text.value value := by
  obtain ⟨_, ⟨_, ⟨_, ⟨_, -, n, hname, -⟩, -⟩, -⟩, p, ⟨hp, hne⟩, -⟩ :=
    (ofTrimmed_eq_iff_mem_of_slashes rfl).1 h
  refine ⟨hname.1 ▸ hname, rfl, ?_⟩
  rw [← hp]
  exact ⟨hne, startsOff_trim p, endsOff_trim p⟩

theorem replacement_mem_spelling (hname : name.toList ∈ word name)
    (hvalue : value.toList ∈ Text.value value) :
    (replacement kind name value).toList ∈ (setting .call kind name value).spelling := by
  refine mem_spelling_call_iff.2 ⟨"(".toList ++ (name.toList ++ (",".toList ++
    ((' ' :: value.toList) ++ ")".toList))), ?_, ?_⟩
  · have hpadded : ' ' :: value.toList ∈ padded value := by
      obtain ⟨-, hne, hs, he⟩ := hvalue
      have htrim : trim (' ' :: value.toList) = value.toList := by
        rw [trim, trimStart_cons_of_isSpace (by decide)]
        exact trim_eq_self hs he
      refine ⟨htrim, ?_⟩
      rw [htrim]
      exact hne
    exact mem_blanks_mul_of_mem (Language.append_mem_mul rfl (mem_blanks_mul_of_mem
      (Language.append_mem_mul hname (mem_blanks_mul_of_mem
        (Language.append_mem_mul rfl (Language.append_mem_mul hpadded rfl))))))
  · simp [toList_replacement, front]

/-- The call that is to replace a setting in the form of a comment is read as the same setting,
unless a comment starts in the value. -/
theorem classify_replacement_iff {line : String}
    (h : classify line = setting .comment kind name value) :
    (Issue.legacySetting kind name value).message =
        "Legacy `// " ++ kind.commentWord ++ " " ++ name ++ "=" ++ value ++ "` comment, " ++
          "use `" ++ replacement kind name value ++ "` instead" ∧
      (classify (replacement kind name value) = setting .call kind name value ↔
        ¬ HasComment value.toList) := by
  obtain ⟨hname, hvalue⟩ := parts_of_comment h
  refine ⟨message_legacySetting kind name value, ?_⟩
  rw [← beforeComment?_eq_none_iff, classify, ofTrimmed_eq_call_iff]
  cases hb : beforeComment? false value.toList with
  | none =>
    rw [trim_stripComment_of_none hname hb]
    exact iff_of_true (replacement_mem_spelling hname hvalue) rfl
  | some b =>
    refine iff_of_false (fun hmem => ?_) (Option.some_ne_none b)
    obtain ⟨r, hr, heq⟩ := mem_spelling_call_iff.1 hmem
    have hshort : (trim (stripComment (replacement kind name value).toList)).length + 2 ≤ _ :=
      length_trim_stripComment_lt hname hb
    have hlong := length_le_of_mem_arguments hr
    have hmarks : "(".toList.length = 1 ∧ ", ".toList.length = 2 := by decide
    rw [heq] at hshort
    simp only [front, List.length_append] at hshort
    omega

theorem classify_replacement_of_quoted_slashes :
    classify "// pico_cmake_set_default A = (\"b // c\")" =
        setting .comment .fallback "A" "(\"b // c\")" ∧
      ¬ HasComment "(\"b // c\")".toList ∧
      classify (replacement .fallback "A" "(\"b // c\")") =
        setting .call .fallback "A" "(\"b // c\")" := by
  have hline : classify "// pico_cmake_set_default A = (\"b // c\")" =
      setting .comment .fallback "A" "(\"b // c\")" := by decide +kernel
  have hplain : ¬ HasComment "(\"b // c\")".toList :=
    beforeComment?_eq_none_iff.1 (by decide +kernel)
  exact ⟨hline, hplain, (classify_replacement_iff hline).2.2 hplain⟩

/-- So the call may mean something else than the line that it should replace, as it does behind a
remark. -/
theorem replacement_loses_setting :
    ¬ ∀ line kind name value, classify line = setting .comment kind name value →
      classify (replacement kind name value) = setting .call kind name value := by
  intro h
  have hline : classify "// pico_cmake_set A=b // c" = setting .comment .fixed "A" "b // c" := by
    decide +kernel
  have hcall : classify (replacement .fixed "A" "b // c") = unrecognized := by decide +kernel
  exact absurd (hcall.symm.trans (h _ _ _ _ hline)) nofun

end BoardLint.Directive
