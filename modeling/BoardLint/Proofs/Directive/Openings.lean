import BoardLint.Proofs.Directive.Readers

/-!
# How lines start

The start of a line chooses the grammar that it has to follow, and each grammar gives directives of
its own: whatever is read behind a `#` starts with a `#`, and likewise for comments and for calls.
So the directive of a line tells how the line starts (`ofTrimmed_eq_iff_of_hash`,
`ofTrimmed_eq_iff_of_slashes`, `ofTrimmed_eq_iff_of_call`), and behind a `#` also its keyword
(`ofHash_eq_iff`).
-/

namespace BoardLint.Directive

open Text

variable {cs : List Char} {d : Directive} {k : Keyword}

theorem getD_eq_iff {o : Option Directive} (hd : d ≠ unrecognized) :
    o.getD unrecognized = d ↔ o = some d := by
  cases o with
  | none => simp [hd.symm]
  | some e => simp

theorem ne_unrecognized {o : Opening} (h : d.opening? = some o) : d ≠ unrecognized := by
  rintro rfl
  exact absurd h nofun

/-! ## Behind a sign -/

theorem keyword?_of_definition? (h : definition? cs = some d) : d.keyword? = some .define := by
  simp only [definition?, Option.bind_eq_bind, Option.bind_eq_some_iff] at h
  obtain ⟨a, -, ⟨name, b⟩, -, h⟩ := h
  dsimp only at h
  split at h
  · obtain rfl := Option.some.inj h
    rfl
  · obtain ⟨c, -, h⟩ := Option.bind_eq_some_iff.1 h
    obtain rfl := Option.some.inj h
    rfl

theorem keyword?_ofCondition (word : ConditionWord) (cs : List Char) :
    (ofCondition word cs).keyword? = some (.condition word) := by
  have hmap : ∀ {f : String → Directive} {other : Directive} (o : Option String),
      (∀ w, (f w).keyword? = some (.condition word)) →
      other.keyword? = some (.condition word) →
      ((o.map f).getD other).keyword? = some (.condition word) := by
    rintro f other (_ | w) hf hother
    · exact hother
    · exact hf w
  unfold ofCondition
  split
  · exact hmap _ (fun _ => rfl) rfl
  · exact hmap _ (fun _ => rfl) rfl
  · exact hmap _ (fun _ => rfl) rfl
  · exact hmap _ (fun _ => rfl) rfl
  · rfl

theorem keyword?_of_ofKeyword (hd : d ≠ unrecognized) (h : ofKeyword k cs = d) :
    d.keyword? = some k := by
  cases k with
  | elseBranch =>
    simp only [ofKeyword] at h
    split at h
    · exact h ▸ rfl
    · exact absurd h.symm hd
  | endIf =>
    simp only [ofKeyword] at h
    split at h
    · exact h ▸ rfl
    · exact absurd h.symm hd
  | includeFile =>
    simp only [ofKeyword] at h
    split at h
    · exact h ▸ rfl
    · exact absurd h.symm hd
  | define => exact keyword?_of_definition? ((getD_eq_iff hd).1 h)
  | condition word => exact h ▸ keyword?_ofCondition word (trimStart cs)

theorem ofHash_of_keyword {rest : List Char}
    (h : takeWord? (trimStart cs) = some (k.text.toList, rest)) : ofHash cs = ofKeyword k rest := by
  have hword : Keyword.ofString? (String.ofList k.text.toList) = some k := by
    rw [String.ofList_toList, Keyword.ofString?_eq_some_iff]
  simp only [ofHash, h, hword]

/-- Behind a `#`, a directive is read behind its keyword. -/
theorem ofHash_eq_iff (hk : d.keyword? = some k) :
    ofHash cs = d ↔ ∃ rest, takeWord? (trimStart cs) = some (k.text.toList, rest) ∧
      ofKeyword k rest = d := by
  have hd : d ≠ unrecognized := ne_unrecognized (opening?_eq_hash_iff.2 ⟨k, hk⟩)
  constructor
  · intro h
    unfold ofHash at h
    split at h
    · exact absurd h.symm hd
    · rename_i w rest hw
      split at h
      · exact absurd h.symm hd
      · rename_i k' hk'
        obtain rfl : k' = k := Option.some.inj ((keyword?_of_ofKeyword hd h).symm.trans hk)
        refine ⟨rest, ?_, h⟩
        rw [hw, Keyword.ofString?_eq_some_iff.1 hk', String.toList_ofList]
  · rintro ⟨rest, hrest, h⟩
    rw [ofHash_of_keyword hrest, h]

theorem opening?_of_ofHash (hd : d ≠ unrecognized) (h : ofHash cs = d) :
    d.opening? = some .hash := by
  unfold ofHash at h
  split at h
  · exact absurd h.symm hd
  · split at h
    · exact absurd h.symm hd
    · exact opening?_eq_hash_iff.2 ⟨_, keyword?_of_ofKeyword hd h⟩

/-! ## Comments and calls -/

theorem eq_setting_of_commentSetting? (h : commentSetting? cs = some d) :
    ∃ kind w v, d = setting .comment kind w v := by
  simp only [commentSetting?, Option.bind_eq_bind, Option.bind_eq_some_iff] at h
  obtain ⟨a, -, ⟨name, b⟩, -, c, -, v, -, h⟩ := h
  exact ⟨_, _, _, (Option.some.inj h).symm⟩

theorem eq_setting_of_callSetting? (h : callSetting? cs = some d) :
    ∃ kind w v, d = setting .call kind w v := by
  simp only [callSetting?, Option.bind_eq_bind, Option.bind_eq_some_iff] at h
  obtain ⟨a, -, ⟨name, b⟩, -, c, -, r, -, v, -, h⟩ := h
  exact ⟨_, _, _, (Option.some.inj h).symm⟩

theorem opening?_of_callSetting? (h : callSetting? cs = some d) : d.opening? = some .call := by
  obtain ⟨kind, w, v, rfl⟩ := eq_setting_of_callSetting? h
  rfl

theorem opening?_of_ofComment (hd : d ≠ unrecognized) (h : ofComment cs = d) :
    d.opening? = some .slashes := by
  simp only [ofComment] at h
  split at h
  · exact h ▸ rfl
  · split at h
    · split at h
      · exact h ▸ rfl
      · exact absurd h.symm hd
    · obtain ⟨a, -, ha⟩ := Option.bind_eq_some_iff.1 ((getD_eq_iff hd).1 h)
      obtain ⟨kind, w, v, rfl⟩ := eq_setting_of_commentSetting? ha
      rfl

/-! ## The start of a line -/

theorem ofTrimmed_call (r : List Char) :
    ofTrimmed ("pico_board_cmake_set".toList ++ r) = (callSetting? r).getD unrecognized := by
  have hdrop := dropStart?_append "pico_board_cmake_set".toList r
  unfold ofTrimmed
  split
  · rename_i h
    have hp : 'p' = '/' := (List.cons.inj h).1
    exact absurd hp (by decide)
  · rename_i h
    have hp : 'p' = '#' := (List.cons.inj h).1
    exact absurd hp (by decide)
  · rw [hdrop, Option.bind_some]

/-- A line that is recognized starts in one of three ways. -/
theorem ofTrimmed_cases (hd : d ≠ unrecognized) (h : ofTrimmed cs = d) :
    (∃ r, cs = '#' :: r ∧ ofHash r = d) ∨ (∃ r, cs = '/' :: '/' :: r ∧ ofComment r = d) ∨
      ∃ r, cs = "pico_board_cmake_set".toList ++ r ∧ callSetting? r = some d := by
  unfold ofTrimmed at h
  split at h
  · exact .inr (.inl ⟨_, rfl, h⟩)
  · exact .inl ⟨_, rfl, h⟩
  · obtain ⟨r, hr, hcall⟩ := Option.bind_eq_some_iff.1 ((getD_eq_iff hd).1 h)
    exact .inr (.inr ⟨r, dropStart?_eq_some_iff.1 hr, hcall⟩)

theorem ofTrimmed_eq_iff_of_hash (ho : d.opening? = some .hash) :
    ofTrimmed cs = d ↔ ∃ r, cs = '#' :: r ∧ ofHash r = d := by
  have hd := ne_unrecognized ho
  constructor
  · intro h
    rcases ofTrimmed_cases hd h with h | ⟨r, -, h⟩ | ⟨r, -, h⟩
    · exact h
    · exact absurd (ho.symm.trans (opening?_of_ofComment hd h)) nofun
    · exact absurd (ho.symm.trans (opening?_of_callSetting? h)) nofun
  · rintro ⟨r, rfl, h⟩
    exact h

theorem ofTrimmed_eq_iff_of_slashes (ho : d.opening? = some .slashes) :
    ofTrimmed cs = d ↔ ∃ r, cs = '/' :: '/' :: r ∧ ofComment r = d := by
  have hd := ne_unrecognized ho
  constructor
  · intro h
    rcases ofTrimmed_cases hd h with ⟨r, -, h⟩ | h | ⟨r, -, h⟩
    · exact absurd (ho.symm.trans (opening?_of_ofHash hd h)) nofun
    · exact h
    · exact absurd (ho.symm.trans (opening?_of_callSetting? h)) nofun
  · rintro ⟨r, rfl, h⟩
    exact h

theorem ofTrimmed_eq_iff_of_call (ho : d.opening? = some .call) :
    ofTrimmed cs = d ↔
      ∃ r, cs = "pico_board_cmake_set".toList ++ r ∧ callSetting? r = some d := by
  have hd := ne_unrecognized ho
  constructor
  · intro h
    rcases ofTrimmed_cases hd h with ⟨r, -, h⟩ | ⟨r, -, h⟩ | h
    · exact absurd (ho.symm.trans (opening?_of_ofHash hd h)) nofun
    · exact absurd (ho.symm.trans (opening?_of_ofComment hd h)) nofun
    · exact h
  · rintro ⟨r, rfl, h⟩
    rw [ofTrimmed_call, h, Option.getD_some]

end BoardLint.Directive
