import BoardLint.Proofs.Directive.Openings

/-!
# Preprocessor lines

A line is read as a preprocessor directive if it is one of the texts that write the directive
(`classify_eq_iff_of_hash`). The keyword is the longest word behind the sign, and what follows it
has to be of the form that the directive asks for (`tail`, `ofKeyword_eq_iff`). A condition of any
other form is unsupported.
-/

namespace BoardLint.Directive

open Text

variable {cs r : List Char} {d : Directive} {k : Keyword}

/-! ## Behind the keyword -/

/-- What follows the keyword of a line whose condition, if it has one, is understood. -/
def tail : Directive → Language Char
  | define w none => gap * word w
  | define w (some v) => gap * (word w * (gap * value v))
  | ifTrue false w | ifDefined w | ifUndefined w => gap * word w
  | ifTrue true w => blanks * (lit "!" * (blanks * word w))
  | includeFile path => blanks * quoted path
  | elseBranch | endIf => 1
  | _ => 0

/-- Behind a whole word, another word comes after white space. -/
theorem mem_gap_mul_word_iff {w : String} (hs : StartsOff isWordChar cs) :
    cs ∈ gap * word w ↔ trimStart cs ∈ word w := by
  rw [mem_gap_mul fun _ => startsOff_space_of_mem_word]
  constructor
  · rintro ⟨rest, h, hrest⟩
    rwa [(dropSpaces?_eq_some_iff.1 h).1]
  · intro h
    refine ⟨trimStart cs, dropSpaces?_eq_some_iff.2 ⟨rfl, fun hoff => ?_⟩, h⟩
    rw [trimStart, dropWhile_eq_self hoff] at h
    obtain ⟨-, hne, hw⟩ := h
    obtain ⟨x, cs, rfl⟩ := List.exists_cons_of_ne_nil hne
    rw [startsOff_cons, hw x List.mem_cons_self] at hs
    cases hs

theorem eq_nil_of_trimStart (he : EndsOff isSpace cs) (h : trimStart cs = []) : cs = [] := by
  rcases List.eq_nil_or_concat cs with rfl | ⟨init, x, rfl⟩
  · rfl
  · have hx : isSpace x = false := he x (by simp)
    have hall : init.concat x ∈ blanks := by
      have htake := takeWhile_mem_blanks (init.concat x)
      have hdrop : (init.concat x).dropWhile isSpace = [] := h
      rwa [← List.append_nil (List.takeWhile _ _), ← hdrop,
        List.takeWhile_append_dropWhile] at htake
    rw [hall x (by simp)] at hx
    exact absurd hx nofun

theorem map_getD_eq_iff {f : String → Directive} {other : Directive} {o : Option String}
    {w : String} (hf : ∀ v, f v = f w → v = w) (hother : other ≠ f w) :
    (o.map f).getD other = f w ↔ o = some w := by
  cases o with
  | none => simp [hother]
  | some v =>
    rw [Option.map_some, Option.getD_some, Option.some.injEq]
    exact ⟨hf v, congrArg f⟩

theorem ofCondition_eq_ifDefined_iff {w : String} :
    ofCondition .ifDefined cs = ifDefined w ↔ cs ∈ word w := by
  rw [← onlyWord?_eq_some_iff]
  exact map_getD_eq_iff (fun _ h => (ifDefined.inj h)) nofun

theorem ofCondition_eq_ifUndefined_iff {w : String} :
    ofCondition .ifUndefined cs = ifUndefined w ↔ cs ∈ word w := by
  rw [← onlyWord?_eq_some_iff]
  exact map_getD_eq_iff (fun _ h => (ifUndefined.inj h)) nofun

theorem ofCondition_ifTrue_of_ne (h : ∀ r, cs ≠ '!' :: r) :
    ofCondition .ifTrue cs =
      ((onlyWord? cs).map (ifTrue false)).getD (unsupported .ifTrue (String.ofList cs)) := by
  unfold ofCondition
  split
  · exact absurd rfl (h _)
  · rfl
  all_goals contradiction

theorem exclamation_not_mem_word {w : String} : '!' :: r ∉ word w := by
  rintro ⟨-, -, hw⟩
  exact absurd (hw '!' List.mem_cons_self) (by decide)

theorem ofCondition_eq_ifTrue_false_iff {w : String} :
    ofCondition .ifTrue cs = ifTrue false w ↔ cs ∈ word w := by
  by_cases h : ∃ r, cs = '!' :: r
  · obtain ⟨r, rfl⟩ := h
    rw [iff_false_intro exclamation_not_mem_word, iff_false]
    show ((onlyWord? (trimStart r)).map (ifTrue true)).getD _ ≠ _
    cases onlyWord? (trimStart r) <;> exact nofun
  · rw [ofCondition_ifTrue_of_ne fun r hr => h ⟨r, hr⟩, ← onlyWord?_eq_some_iff]
    exact map_getD_eq_iff (f := ifTrue false) (fun _ hv => (ifTrue.inj hv).2) nofun

theorem ofCondition_eq_ifTrue_true_iff {w : String} :
    ofCondition .ifTrue cs = ifTrue true w ↔ cs ∈ lit "!" * (blanks * word w) := by
  rw [mem_lit_mul]
  by_cases h : ∃ r, cs = '!' :: r
  · obtain ⟨r, rfl⟩ := h
    have hmap : ofCondition .ifTrue ('!' :: r) = ifTrue true w ↔ onlyWord? (trimStart r) = some w :=
      map_getD_eq_iff (f := ifTrue true) (fun _ hv => (ifTrue.inj hv).2) nofun
    rw [hmap, onlyWord?_eq_some_iff, ← mem_blanks_mul fun _ => startsOff_space_of_mem_word]
    constructor
    · intro hr
      exact ⟨r, rfl, hr⟩
    · rintro ⟨r', hr', hmem⟩
      exact (List.cons.inj hr').2 ▸ hmem
  · rw [ofCondition_ifTrue_of_ne fun r hr => h ⟨r, hr⟩]
    constructor
    · cases onlyWord? cs <;> exact nofun
    · rintro ⟨r, rfl, -⟩
      exact absurd ⟨r, rfl⟩ h

/-- What is left behind the name of a define. -/
theorem endsOff_of_name {a name b : List Char} (he : EndsOff isSpace cs)
    (ha : dropSpaces? cs = some a) (hb : takeWord? a = some (name, b)) : EndsOff isSpace b := by
  obtain ⟨rfl, -⟩ := dropSpaces?_eq_some_iff.1 ha
  have hoff := endsOff_trimStart he
  rw [append_of_takeWord? hb] at hoff
  exact hoff.of_append

theorem definition?_eq_some_iff :
    definition? cs = some d ↔ ∃ a, dropSpaces? cs = some a ∧ ∃ name b,
      takeWord? a = some (name, b) ∧
        (b = [] ∧ d = define (String.ofList name) none ∨
          ∃ c, dropSpaces? b = some c ∧ d = define (String.ofList name) (filled? c)) := by
  simp only [definition?, Option.bind_eq_bind, Option.bind_eq_some_iff]
  refine exists_congr fun a => and_congr_right fun _ => ?_
  constructor
  · rintro ⟨⟨name, b⟩, hb, h⟩
    refine ⟨name, b, hb, ?_⟩
    dsimp only at h
    split at h
    · exact .inl ⟨rfl, (Option.some.inj h).symm⟩
    · obtain ⟨c, hc, h⟩ := Option.bind_eq_some_iff.1 h
      exact .inr ⟨c, hc, (Option.some.inj h).symm⟩
  · rintro ⟨name, b, hb, ⟨rfl, rfl⟩ | ⟨c, hc, rfl⟩⟩
    · exact ⟨(name, []), hb, rfl⟩
    · refine ⟨(name, b), hb, ?_⟩
      dsimp only
      split
      · cases hc
      · exact Option.bind_eq_some_iff.2 ⟨c, hc, rfl⟩

/-- White space behind a name is followed by a value. -/
theorem filled?_ne_none (he : EndsOff isSpace cs) (h : dropSpaces? cs = some r) :
    filled? r ≠ none := by
  obtain ⟨rfl, hcs⟩ := dropSpaces?_eq_some_iff.1 h
  have htrim : trim (trimStart cs) = trimStart cs :=
    trim_eq_self (startsOff_trimStart cs) (endsOff_trimStart he)
  unfold filled?
  rw [htrim]
  split
  · rename_i hnil
    rw [eq_nil_of_trimStart he hnil] at hcs
    exact absurd startsOff_nil hcs
  · exact nofun

theorem definition?_eq_some_none_iff {w : String} (he : EndsOff isSpace cs) :
    definition? cs = some (define w none) ↔ cs ∈ gap * word w := by
  rw [← mul_one (word w), mem_gap_mul fun _ => startsOff_space_of_mem_word_mul,
    definition?_eq_some_iff]
  refine exists_congr fun a => and_congr_right fun ha => ?_
  rw [mem_word_mul (by rintro _ rfl; exact startsOff_nil)]
  constructor
  · rintro ⟨name, b, hb, ⟨rfl, hd⟩ | ⟨c, hc, hd⟩⟩
    · obtain ⟨rfl, -⟩ := define.inj hd
      exact ⟨[], by rwa [String.toList_ofList], rfl⟩
    · exact absurd (define.inj hd).2.symm (filled?_ne_none (endsOff_of_name he ha hb) hc)
  · rintro ⟨_, hb, rfl⟩
    exact ⟨w.toList, [], hb, .inl ⟨rfl, by rw [String.ofList_toList]⟩⟩

theorem definition?_eq_some_some_iff {w v : String} (he : EndsOff isSpace cs) :
    definition? cs = some (define w (some v)) ↔ cs ∈ gap * (word w * (gap * value v)) := by
  have hvalue : ∀ c ∈ value v, StartsOff isSpace c := fun _ hc => hc.2.2.1
  rw [mem_gap_mul fun _ => startsOff_space_of_mem_word_mul, definition?_eq_some_iff]
  refine exists_congr fun a => and_congr_right fun ha => ?_
  rw [mem_word_mul fun _ => startsOff_word_of_mem_gap_mul]
  -- the value has no white space at its ends, since the line has none at its end
  have hfilled : ∀ {name b c}, takeWord? a = some (name, b) → dropSpaces? b = some c →
      (filled? c = some v ↔ c ∈ value v) := by
    intro name b c hb hc
    obtain ⟨rfl, -⟩ := dropSpaces?_eq_some_iff.1 hc
    rw [filled?_eq_some_iff]
    exact mem_padded_iff (startsOff_trimStart b) (endsOff_trimStart (endsOff_of_name he ha hb))
  constructor
  · rintro ⟨name, b, hb, ⟨rfl, hd⟩ | ⟨c, hc, hd⟩⟩
    · exact absurd (define.inj hd).2 nofun
    · obtain ⟨rfl, hv⟩ := define.inj hd
      refine ⟨b, by rwa [String.toList_ofList], (mem_gap_mul hvalue).2 ⟨c, hc, ?_⟩⟩
      exact (hfilled hb hc).1 hv.symm
  · rintro ⟨b, hb, hmem⟩
    obtain ⟨c, hc, hv⟩ := (mem_gap_mul hvalue).1 hmem
    refine ⟨w.toList, b, hb, .inr ⟨c, hc, ?_⟩⟩
    rw [String.ofList_toList, (hfilled hb hc).2 hv]

theorem isEmpty_trimStart_iff (he : EndsOff isSpace cs) :
    (trimStart cs).isEmpty = true ↔ cs ∈ (1 : Language Char) := by
  rw [List.isEmpty_iff, Language.mem_one]
  constructor
  · exact eq_nil_of_trimStart he
  · rintro rfl
    rfl

theorem ofKeyword_includeFile_iff {path : String} :
    ofKeyword .includeFile cs = includeFile path ↔ cs ∈ blanks * quoted path := by
  rw [mem_blanks_mul fun _ => startsOff_space_of_mem_quoted, ← takeQuoted?_alone]
  simp only [ofKeyword]
  constructor
  · intro h
    split at h
    · rename_i found hfound
      rw [hfound, ofList_eq_iff.1 (includeFile.inj h)]
    · cases h
  · intro h
    rw [h]
    exact congrArg includeFile String.ofList_toList

/-- Behind its keyword, a line is read as a directive if it is of the form that the directive asks
for. -/
theorem ofKeyword_eq_iff (hk : d.keyword? = some k) (hd : ∀ word c, d ≠ unsupported word c)
    (hs : StartsOff isWordChar cs) (he : EndsOff isSpace cs) :
    ofKeyword k cs = d ↔ cs ∈ d.tail := by
  cases d with
  | elseBranch =>
    obtain rfl := Option.some.inj hk
    refine Iff.trans ?_ (isEmpty_trimStart_iff he)
    rw [ofKeyword]
    split <;> simp_all
  | endIf =>
    obtain rfl := Option.some.inj hk
    refine Iff.trans ?_ (isEmpty_trimStart_iff he)
    rw [ofKeyword]
    split <;> simp_all
  | includeFile path =>
    obtain rfl := Option.some.inj hk
    exact ofKeyword_includeFile_iff
  | define w v =>
    obtain rfl := Option.some.inj hk
    rw [ofKeyword, getD_eq_iff (d := define w v) (ne_unrecognized rfl)]
    cases v with
    | none => exact definition?_eq_some_none_iff he
    | some v => exact definition?_eq_some_some_iff he
  | ifTrue negated w =>
    obtain rfl := Option.some.inj hk
    cases negated with
    | false => exact ofCondition_eq_ifTrue_false_iff.trans (mem_gap_mul_word_iff hs).symm
    | true =>
      refine ofCondition_eq_ifTrue_true_iff.trans (mem_blanks_mul fun r hr => ?_).symm
      exact startsOff_of_mem_lit_mul (by decide) hr
  | ifDefined w =>
    obtain rfl := Option.some.inj hk
    exact ofCondition_eq_ifDefined_iff.trans (mem_gap_mul_word_iff hs).symm
  | ifUndefined w =>
    obtain rfl := Option.some.inj hk
    exact ofCondition_eq_ifUndefined_iff.trans (mem_gap_mul_word_iff hs).symm
  | unsupported word c => exact absurd rfl (hd word c)
  | setting form kind w v => cases hk
  | boardDetection => cases hk
  | includeSuggestion path => cases hk
  | unrecognized => cases hk

theorem startsOff_word_of_mem_tail (h : cs ∈ d.tail) : StartsOff isWordChar cs := by
  unfold tail at h
  split at h
  · exact startsOff_word_of_mem_gap_mul h
  · exact startsOff_word_of_mem_gap_mul h
  · exact startsOff_word_of_mem_gap_mul h
  · exact startsOff_word_of_mem_gap_mul h
  · exact startsOff_word_of_mem_gap_mul h
  · refine startsOff_word_of_mem_blanks_mul (fun r hr => ?_) h
    exact startsOff_of_mem_lit_mul (by decide) hr
  · refine startsOff_word_of_mem_blanks_mul (fun r hr => ?_) h
    obtain ⟨rfl, -⟩ := hr
    exact startsOff_cons.2 (by decide)
  · rw [Language.mem_one] at h
    exact h ▸ startsOff_nil
  · rw [Language.mem_one] at h
    exact h ▸ startsOff_nil
  · exact absurd h (Language.notMem_zero cs)

/-! ## Lines that start with a sign -/

theorem spelling_eq (hk : d.keyword? = some k) (hd : ∀ word c, d ≠ unsupported word c) :
    d.spelling = lit "#" * (blanks * (lit k.text * d.tail)) := by
  cases d with
  | define w v =>
    obtain rfl := Option.some.inj hk
    cases v <;> simp only [spelling, tail, mul_assoc] <;> rfl
  | ifTrue negated w =>
    obtain rfl := Option.some.inj hk
    cases negated <;> simp only [spelling, ifTrueLine, tail, mul_assoc] <;> rfl
  | ifDefined w =>
    obtain rfl := Option.some.inj hk
    simp only [spelling, ifDefinedLine, tail, mul_assoc]
    rfl
  | ifUndefined w =>
    obtain rfl := Option.some.inj hk
    simp only [spelling, ifUndefinedLine, tail, mul_assoc]
    rfl
  | elseBranch =>
    obtain rfl := Option.some.inj hk
    simp only [spelling, tail, mul_assoc, mul_one]
    rfl
  | endIf =>
    obtain rfl := Option.some.inj hk
    simp only [spelling, tail, mul_assoc, mul_one]
    rfl
  | includeFile path =>
    obtain rfl := Option.some.inj hk
    simp only [spelling, tail, mul_assoc]
    rfl
  | unsupported word c => exact absurd rfl (hd word c)
  | setting form kind w v => exact absurd hk nofun
  | boardDetection => exact absurd hk nofun
  | includeSuggestion path => exact absurd hk nofun
  | unrecognized => exact absurd hk nofun

theorem lit_text (k : Keyword) : lit k.text = word k.text := by
  have hword : k.text.toList ≠ [] ∧ k.text.toList.all isWordChar = true := by
    cases k with
    | condition word => cases word <;> decide
    | _ => decide
  ext cs
  constructor
  · rintro rfl
    exact ⟨rfl, hword.1, List.all_eq_true.1 hword.2⟩
  · exact fun h => h.1

/-- A line with a keyword: the longest word behind the sign is the keyword. -/
theorem mem_keyword_mul_iff {A : Language Char} (hA : ∀ r ∈ A, StartsOff isWordChar r) :
    cs ∈ lit "#" * (blanks * (lit k.text * A)) ↔ ∃ r, cs = '#' :: r ∧
      ∃ rest, takeWord? (trimStart r) = some (k.text.toList, rest) ∧ rest ∈ A := by
  rw [mem_lit_mul]
  refine exists_congr fun r => and_congr_right fun _ => ?_
  rw [lit_text, mem_blanks_mul fun _ => startsOff_space_of_mem_word_mul, mem_word_mul hA]

/-- What is left of a line behind its keyword. -/
theorem rest_of_keyword {r rest w : List Char} (he : EndsOff isSpace ('#' :: r))
    (h : takeWord? (trimStart r) = some (w, rest)) :
    StartsOff isWordChar rest ∧ EndsOff isSpace rest := by
  have hr : EndsOff isSpace r := EndsOff.of_append (a := ['#']) he
  have hoff := endsOff_trimStart hr
  rw [append_of_takeWord? h] at hoff
  exact ⟨(takeWord?_eq_some_iff.1 h).2.2.2, hoff.of_append⟩

theorem ofTrimmed_eq_iff_of_keyword (he : EndsOff isSpace cs) (hk : d.keyword? = some k)
    (hd : ∀ word c, d ≠ unsupported word c) : ofTrimmed cs = d ↔ cs ∈ d.spelling := by
  rw [ofTrimmed_eq_iff_of_hash (opening?_eq_hash_iff.2 ⟨k, hk⟩), spelling_eq hk hd,
    mem_keyword_mul_iff fun _ => startsOff_word_of_mem_tail]
  refine exists_congr fun r => and_congr_right ?_
  rintro rfl
  rw [ofHash_eq_iff hk]
  refine exists_congr fun rest => and_congr_right fun hrest => ?_
  obtain ⟨hs, he⟩ := rest_of_keyword he hrest
  exact ofKeyword_eq_iff hk hd hs he

/-! ## Conditions that are not understood -/

theorem mem_understood_iff (he : EndsOff isSpace cs) :
    cs ∈ understood ↔ (∃ negated w, ofTrimmed cs = ifTrue negated w) ∨
      (∃ w, ofTrimmed cs = ifDefined w) ∨ ∃ w, ofTrimmed cs = ifUndefined w := by
  have hif : ∀ negated w, ofTrimmed cs = ifTrue negated w ↔ cs ∈ ifTrueLine negated w :=
    fun _ _ => ofTrimmed_eq_iff_of_keyword he rfl nofun
  have hdefined : ∀ w, ofTrimmed cs = ifDefined w ↔ cs ∈ ifDefinedLine w :=
    fun _ => ofTrimmed_eq_iff_of_keyword he rfl nofun
  have hundefined : ∀ w, ofTrimmed cs = ifUndefined w ↔ cs ∈ ifUndefinedLine w :=
    fun _ => ofTrimmed_eq_iff_of_keyword he rfl nofun
  simp only [hif, hdefined, hundefined]
  rfl

theorem ofCondition_cases (word : ConditionWord) (cs : List Char) :
    ofCondition word cs = unsupported word (String.ofList cs) ∨
      (∃ negated w, ofCondition word cs = ifTrue negated w) ∨
        (∃ w, ofCondition word cs = ifDefined w) ∨ ∃ w, ofCondition word cs = ifUndefined w := by
  have hmap : ∀ (f : String → Directive) (other : Directive) (o : Option String),
      (o.map f).getD other = other ∨ ∃ w, (o.map f).getD other = f w := by
    rintro f other (_ | w)
    · exact .inl rfl
    · exact .inr ⟨w, rfl⟩
  unfold ofCondition
  split
  · exact (hmap _ _ _).imp_right fun ⟨w, hw⟩ => .inl ⟨true, w, hw⟩
  · exact (hmap _ _ _).imp_right fun ⟨w, hw⟩ => .inl ⟨false, w, hw⟩
  · exact (hmap _ _ _).imp_right fun ⟨w, hw⟩ => .inr (.inl ⟨w, hw⟩)
  · exact (hmap _ _ _).imp_right fun ⟨w, hw⟩ => .inr (.inr ⟨w, hw⟩)
  · exact .inl rfl

theorem ofTrimmed_eq_unsupported_iff (he : EndsOff isSpace cs) {word : ConditionWord}
    {condition : String} :
    ofTrimmed cs = unsupported word condition ↔ cs ∈ (unsupported word condition).spelling := by
  have hform : cs ∈ lit "#" * blanks * lit word.text * rest condition ↔ ∃ r, cs = '#' :: r ∧
      ∃ a, takeWord? (trimStart r) = some (word.text.toList, a) ∧ a ∈ rest condition := by
    simp only [mul_assoc]
    exact mem_keyword_mul_iff (k := .condition word) fun _ h => h.1
  show _ ↔ cs ∈ lit "#" * blanks * lit word.text * rest condition - understood
  rw [Language.mem_sub, hform, mem_understood_iff he]
  constructor
  · intro h
    refine ⟨?_, by simp [h]⟩
    obtain ⟨r, rfl, hr⟩ := (ofTrimmed_eq_iff_of_hash rfl).1 h
    obtain ⟨a, ha, hcond⟩ := (ofHash_eq_iff (k := .condition word) rfl).1 hr
    refine ⟨r, rfl, a, ha, (rest_of_keyword he ha).1, ?_⟩
    rcases ofCondition_cases word (trimStart a) with hc | ⟨_, _, hc⟩ | ⟨_, hc⟩ | ⟨_, hc⟩
    · exact ofList_eq_iff.1 (unsupported.inj (hc.symm.trans hcond)).2
    all_goals exact absurd (hc.symm.trans hcond) nofun
  · rintro ⟨⟨r, rfl, a, ha, -, hcond⟩, hnot⟩
    have hr : ofTrimmed ('#' :: r) = ofCondition word (trimStart a) :=
      ofHash_of_keyword (k := .condition word) ha
    rw [hr] at hnot ⊢
    rcases ofCondition_cases word (trimStart a) with hc | hc
    · rw [hc, hcond, String.ofList_toList]
    · exact absurd hc hnot

/-! ## Lines -/

/-- A line is read as a preprocessor directive if it is one of the texts that write it, and a line
that starts with a sign and writes none is unrecognized. -/
theorem classify_eq_iff_of_hash (line : String) :
    (∀ d : Directive, d.opening? = some .hash →
      (classify line = d ↔ trim (stripComment line.toList) ∈ d.spelling)) ∧
    ((∃ r, trim (stripComment line.toList) = '#' :: r) →
      (∀ d : Directive, d.opening? = some .hash →
        trim (stripComment line.toList) ∉ d.spelling) →
      classify line = unrecognized) := by
  have he := endsOff_trim (stripComment line.toList)
  have hiff : ∀ d : Directive, d.opening? = some .hash →
      (classify line = d ↔ trim (stripComment line.toList) ∈ d.spelling) := by
    intro d hd
    obtain ⟨k, hk⟩ := opening?_eq_hash_iff.1 hd
    by_cases hu : ∃ word condition, d = unsupported word condition
    · obtain ⟨word, condition, rfl⟩ := hu
      exact ofTrimmed_eq_unsupported_iff he
    · exact ofTrimmed_eq_iff_of_keyword he hk fun word c h => hu ⟨word, c, h⟩
  refine ⟨hiff, ?_⟩
  rintro ⟨r, hr⟩ hnone
  by_contra hd
  have ho : (classify line).opening? = some .hash := by
    have hread : ofHash r = classify line := by
      rw [classify, hr]
      rfl
    exact opening?_of_ofHash hd hread
  exact hnone _ ho ((hiff _ ho).1 rfl)

theorem classify_eq_iff_of_commented_hash :
    (define "A" (some "B(1)")).opening? = some .hash ∧
      (classify " # define A B(1) // C" = define "A" (some "B(1)") ↔
        "# define A B(1)".toList ∈ (define "A" (some "B(1)")).spelling) ∧
      (∀ d : Directive, d.opening? = some .hash → "#define A(B)".toList ∉ d.spelling) ∧
      classify "#define A(B) // C" = unrecognized := by
  have htrim : trim (stripComment " # define A B(1) // C".toList) = "# define A B(1)".toList := by
    decide +kernel
  have htrim' : trim (stripComment "#define A(B) // C".toList) = "#define A(B)".toList := by
    decide +kernel
  have hnone : ∀ d : Directive, d.opening? = some .hash → "#define A(B)".toList ∉ d.spelling := by
    intro d hd hmem
    rw [← htrim', ← (classify_eq_iff_of_hash "#define A(B) // C").1 d hd] at hmem
    have hunrecognized : classify "#define A(B) // C" = unrecognized := by decide +kernel
    exact ne_unrecognized hd (hmem.symm.trans hunrecognized)
  refine ⟨rfl, htrim ▸ (classify_eq_iff_of_hash " # define A B(1) // C").1 _ rfl, hnone, ?_⟩
  refine (classify_eq_iff_of_hash "#define A(B) // C").2 ⟨"define A(B)".toList, htrim'⟩ ?_
  rw [htrim']
  exact hnone

end BoardLint.Directive
