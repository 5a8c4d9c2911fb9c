import BoardLint.Proofs.Directive.Preprocessor
import BoardLint.Proofs.Directive.Trailing

/-!
# Names in directives

A define without a value and the conditions that are understood hold a name and nothing else
(`naming`). The texts that are read as a name there are the words (`isName_iff`).
-/

namespace BoardLint.Directive

open Text

variable {cs : List Char} {d : Directive} {k : Keyword} {front w : String}

/-- The directives that hold a name and nothing else, each with the text in front of the name. -/
def naming : List (String × (String → Directive)) :=
  [("#define ", (define · none)), ("#ifdef ", ifDefined), ("#ifndef ", ifUndefined),
    ("#if ", ifTrue false), ("#if !", ifTrue true)]

/-- The text is read as a name wherever a directive holds nothing but a name. -/
def IsName (w : String) : Prop := ∀ f ∈ naming, classify (f.1 ++ w) = f.2 w

/-! ## Lines with a word at the end -/

/-- No comment starts in such a line, and there is no white space at its ends. -/
theorem trim_stripComment_append_word (hs : front.toList.head?.map isSpace = some false)
    (hslash : '/' ∉ front.toList) (hw : w.toList ∈ word w) :
    trim (stripComment (front ++ w).toList) = (front ++ w).toList := by
  have hword : '/' ∉ w.toList := fun h => absurd (hw.2.2 '/' h) (by decide +kernel)
  have hline : '/' ∉ (front ++ w).toList := by
    rw [String.toList_append, List.mem_append, not_or]
    exact ⟨hslash, hword⟩
  rw [stripComment_of_not_hasComment (not_hasComment_of_not_mem hline), String.toList_append]
  apply trim_eq_self
  · exact startsOff_of_mem_lit_mul hs (Language.append_mem_mul rfl hw)
  · intro c hc
    rw [List.getLast?_append_of_ne_nil _ hw.2.1] at hc
    exact endsOff_space_of_mem_word hw c hc

/-- White space may stand around a keyword, but none is needed in front of it. -/
theorem append_mem_spelling (hk : d.keyword? = some k) (hd : ∀ word c, d ≠ unsupported word c)
    (h : cs ∈ d.tail) : "#".toList ++ (k.text.toList ++ cs) ∈ d.spelling := by
  rw [spelling_eq hk hd]
  exact Language.append_mem_mul rfl (mem_blanks_mul_of_mem (Language.append_mem_mul rfl h))

theorem naming_mem_spelling (hw : w.toList ∈ word w) :
    ∀ f ∈ naming, (f.1 ++ w).toList ∈ (f.2 w).spelling := by
  have hspace : " ".toList ∈ gap := ⟨by decide, List.all_eq_true.1 (by decide)⟩
  have hgap : " ".toList ++ w.toList ∈ gap * word w := Language.append_mem_mul hspace hw
  have hbang : " ".toList ++ ("!".toList ++ w.toList) ∈ blanks * (lit "!" * (blanks * word w)) :=
    Language.append_mem_mul hspace.2 (Language.append_mem_mul rfl (mem_blanks_mul_of_mem hw))
  simp only [naming, List.forall_mem_cons, String.toList_append]
  refine ⟨?_, ?_, ?_, ?_, ?_, nofun⟩
  · exact append_mem_spelling (k := .define) rfl nofun hgap
  · exact append_mem_spelling (k := .condition .ifDefined) rfl nofun hgap
  · exact append_mem_spelling (k := .condition .ifUndefined) rfl nofun hgap
  · exact append_mem_spelling (k := .condition .ifTrue) rfl nofun hgap
  · exact append_mem_spelling (k := .condition .ifTrue) rfl nofun hbang

theorem naming_keyword (w : String) :
    ∀ f ∈ naming, ∃ k, (f.2 w).keyword? = some k ∧ ∀ word c, f.2 w ≠ unsupported word c := by
  simp only [naming, List.forall_mem_cons]
  exact ⟨⟨_, rfl, nofun⟩, ⟨_, rfl, nofun⟩, ⟨_, rfl, nofun⟩, ⟨_, rfl, nofun⟩, ⟨_, rfl, nofun⟩, nofun⟩

/-! ## Which texts are names -/

theorem isName_of_mem_word (hw : w.toList ∈ word w) : IsName w := by
  intro f hf
  have hfronts : ∀ f ∈ naming, f.1.toList.head?.map isSpace = some false ∧ '/' ∉ f.1.toList := by
    decide
  obtain ⟨hs, hslash⟩ := hfronts f hf
  obtain ⟨k, hk, hd⟩ := naming_keyword w f hf
  rw [classify, ofTrimmed_eq_iff_of_keyword (endsOff_trim _) hk hd,
    trim_stripComment_append_word hs hslash hw]
  exact naming_mem_spelling hw f hf

theorem isName_iff : IsName w ↔ w.toList ∈ word w := by
  constructor
  · intro h
    have hdefine : classify ("#define " ++ w) = define w none :=
      h ("#define ", (define · none)) List.mem_cons_self
    -- the last part of a text that writes this define is the word `w`
    obtain ⟨_, -, cs, hcs, -⟩ :=
      (ofTrimmed_eq_iff_of_keyword (d := define w none) (endsOff_trim _) rfl nofun).1 hdefine
    exact hcs.1 ▸ hcs
  · exact isName_of_mem_word

theorem IsName.ne_empty (h : IsName w) : w ≠ "" := by
  rintro rfl
  exact (isName_iff.1 h).2.1 rfl

end BoardLint.Directive
