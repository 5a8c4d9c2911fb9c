import BoardLint.ExpectedNames
import BoardLint.Proofs.Directive.Names
import BoardLint.Proofs.Path.Directory
import BoardLint.Proofs.Text.Ascii

/-!
# Expected names in ASCII

The guard of a header is the whole end of its path, changed to upper case at once. The detection
name is what is left of the file name in upper case when its ending is cut off, and is then changed
to upper case again. For a header and a directory with names in ASCII both ways change a text into
the same one (`inCapitals`), so that the guard holds the detection name between the directory and
the ending (`names_in_capitals`). Both consist of characters that a name may have. The detection
name may be empty, though, and is no name then (`bare_ending_is_no_name`).
-/

namespace BoardLint.ExpectedNames

open Text Directive

variable {c : Char} {cs : List Char} {p : Path} {file directory : FileName} {d s w : String}

/-! ## Texts in capitals -/

/-- A capital letter, a digit or an underscore. -/
def isCapital (c : Char) : Bool := c.isUpper || c.isDigit || c == '_'

/-- The text consists of capital letters, digits and underscores. -/
def AllCapitals (w : String) : Prop := ∀ c ∈ w.toList, isCapital c = true

instance : DecidablePred AllCapitals := fun w =>
  decidable_of_iff (w.toList.all isCapital = true) List.all_eq_true

/-- A letter in upper case, a digit or an underscore as it is, and an underscore for anything
else. -/
def capital (c : Char) : Char := if c.isAlphanum || c == '_' then c.toUpper else '_'

/-- The text with each of its characters changed into a capital letter, a digit or an
underscore. -/
def inCapitals (s : String) : String := String.ofList (s.toList.map capital)

@[simp] theorem toList_inCapitals (s : String) : (inCapitals s).toList = s.toList.map capital :=
  String.toList_ofList

@[simp] theorem inCapitals_empty : inCapitals "" = "" := rfl

theorem allCapitals_append {a b : String} :
    AllCapitals (a ++ b) ↔ AllCapitals a ∧ AllCapitals b := by
  simp only [AllCapitals, String.toList_append, List.forall_mem_append]

theorem allCapitals_inCapitals (h : ∀ c ∈ s.toList, c.toNat < 128) :
    AllCapitals (inCapitals s) := by
  rw [AllCapitals, toList_inCapitals, List.forall_mem_map]
  exact forall_ascii (by decide +kernel) h

theorem inCapitals_eq_empty_iff : inCapitals s = "" ↔ s = "" := by
  rw [← String.toList_eq_nil_iff, toList_inCapitals, List.map_eq_nil_iff, String.toList_eq_nil_iff]

theorem toNat_lt_of_isCapital (h : isCapital c = true) : c.toNat < 128 := by
  unfold isCapital Char.isUpper Char.isDigit at h
  simp only [Bool.or_eq_true, Bool.and_eq_true, decide_eq_true_eq, beq_iff_eq, ge_iff_le,
    UInt32.le_iff_toNat_le] at h
  rcases h with (h | h) | rfl
  · exact Nat.lt_of_le_of_lt h.2 (by decide)
  · exact Nat.lt_of_le_of_lt h.2 (by decide)
  · decide

theorem of_isCapital (h : isCapital c = true) : isWordChar c = true ∧ isLowercase c = false :=
  of_ascii (P := fun c => isCapital c = true → isWordChar c = true ∧ isLowercase c = false)
    (by decide +kernel) (toNat_lt_of_isCapital h) h

theorem AllCapitals.isUpperName (h : AllCapitals w) : isUpperName w = true := by
  rw [Text.isUpperName, Bool.not_eq_true', List.any_eq_false]
  intro c hc
  rw [(of_isCapital (h c hc)).2]
  exact Bool.false_ne_true

theorem AllCapitals.isName_iff (h : AllCapitals w) : IsName w ↔ w ≠ "" := by
  rw [Directive.isName_iff]
  constructor
  · rintro ⟨-, hne, -⟩ rfl
    exact hne rfl
  · intro hne
    exact ⟨rfl, mt String.toList_eq_nil_iff.1 hne, fun c hc => (of_isCapital (h c hc)).1⟩

/-! ## Names of macros -/

theorem macroName_of_ascii (h : ∀ c ∈ cs, c.toNat < 128) : macroName cs = cs.map capital := by
  have hchar : ∀ c ∈ cs, (if isWordChar c.toUpper then c.toUpper else '_') = capital c :=
    forall_ascii (by decide +kernel) h
  rw [macroName, upper_of_ascii h, List.map_map]
  exact List.map_congr_left hchar

/-- A second change to upper case makes no difference. -/
theorem macroName_upper_of_ascii (h : ∀ c ∈ cs, c.toNat < 128) :
    macroName (upper cs) = cs.map capital := by
  have hchar : ∀ c ∈ cs, c.toUpper.toNat < 128 ∧ capital c.toUpper = capital c :=
    forall_ascii (by decide +kernel) h
  rw [upper_of_ascii h, macroName_of_ascii (List.forall_mem_map.2 fun c hc => (hchar c hc).1),
    List.map_map]
  exact List.map_congr_left fun c hc => (hchar c hc).2

/-! ## From the path to the names -/

/-- The path leads to a header in the directory `d`, and `s` stands in front of the ending of the
header, which is in either case. Both names are in ASCII. -/
structure IsHeaderPath (p : Path) (d s : String) : Prop where
  file : ∃ name, p.fileName? = some name ∧ (name.text = s ++ ".h" ∨ name.text = s ++ ".H")
  directory : ∃ name, p.directory.fileName? = some name ∧ name.text = d
  ascii_directory : ∀ c ∈ d.toList, c.toNat < 128
  ascii_file : ∀ c ∈ s.toList, c.toNat < 128

theorem fileText_eq (hf : p.fileName? = some file) : p.fileText = file.text := by
  rw [Path.fileText, hf, Option.map_some, Option.getD_some]

theorem includePathOf_eq (hf : p.fileName? = some file)
    (hd : p.directory.fileName? = some directory) :
    includePathOf p = directory.text ++ "/" ++ file.text := by
  have hparent : p.parent?.bind Path.fileName? = some directory := by
    rw [Path.directory] at hd
    cases hp : p.parent? with
    | none =>
      have hnone : (Path.mk "").fileName? = none := by decide
      rw [hp, Option.getD_none, hnone] at hd
      cases hd
    | some q => rwa [hp, Option.getD_some] at hd
  rw [includePathOf, hparent, fileText_eq hf]

theorem stem_eq (hf : p.fileName? = some file)
    (hs : file.text = s ++ ".h" ∨ file.text = s ++ ".H") : stem p = upper s.toList := by
  have hlower : upper ".h".toList = ['.', 'H'] := by decide +kernel
  have hupper : upper ".H".toList = ['.', 'H'] := by decide +kernel
  have hname : upper p.fileText.toList = upper s.toList ++ ['.', 'H'] := by
    rw [fileText_eq hf]
    rcases hs with hs | hs
    · rw [hs, String.toList_append, upper_append, hlower]
    · rw [hs, String.toList_append, upper_append, hupper]
  rw [stem, hname, dropEnd?_eq_some_iff.2 rfl, Option.getD_some]

theorem IsHeaderPath.detection_eq (h : IsHeaderPath p d s) :
    (ofPath p).detection = inCapitals s := by
  obtain ⟨file, hf, hs⟩ := h.file
  show String.ofList (macroName (stem p)) = String.ofList (s.toList.map capital)
  rw [stem_eq hf hs, macroName_upper_of_ascii h.ascii_file]

theorem IsHeaderPath.guard_eq (h : IsHeaderPath p d s) :
    (ofPath p).guard = "_" ++ inCapitals d ++ "_" ++ inCapitals s ++ "_H" := by
  obtain ⟨file, hf, hs⟩ := h.file
  obtain ⟨directory, hd, rfl⟩ := h.directory
  have hslash : macroName "/".toList = "_".toList := by decide +kernel
  have hlower : macroName ".h".toList = "_H".toList := by decide +kernel
  have hupper : macroName ".H".toList = "_H".toList := by decide +kernel
  have hfile : macroName file.text.toList = s.toList.map capital ++ "_H".toList := by
    rcases hs with hs | hs
    · rw [hs, String.toList_append, macroName_append, macroName_of_ascii h.ascii_file, hlower]
    · rw [hs, String.toList_append, macroName_append, macroName_of_ascii h.ascii_file, hupper]
  show "_" ++ String.ofList (macroName (includePathOf p).toList) = _
  rw [includePathOf_eq hf hd]
  apply String.toList_injective
  simp only [String.toList_append, String.toList_ofList, macroName_append, hfile, hslash,
    macroName_of_ascii h.ascii_directory, toList_inCapitals, List.append_assoc]

/-! ## The form of the guard -/

/-- Where the text `d`, an `x` and more is the same as `a`, an `x` and more, this `x` behind `a` is
the one behind `d`, or it stands in `d`: it cannot come later, since there is none in `a`. -/
theorem exists_append_eq_iff {x : Char} {a b : List Char} (hx : x ∉ a) (d : List Char) :
    (∃ w ≠ [], d ++ x :: b = a ++ x :: w) ↔ d = a ∧ b ≠ [] ∨ a ++ [x] <+: d := by
  constructor
  · rintro ⟨w, hw, h⟩
    rcases List.append_eq_append_iff.1 h with ⟨m, rfl, hm⟩ | ⟨m, rfl, hm⟩
    · cases m with
      | nil =>
        obtain rfl : b = w := List.cons_injective hm
        exact .inl ⟨(List.append_nil d).symm, hw⟩
      | cons y m =>
        obtain rfl : x = y := (List.cons.inj hm).1
        exact absurd (List.mem_append_right d List.mem_cons_self) hx
    · cases m with
      | nil =>
        obtain rfl : w = b := List.cons_injective hm
        exact .inl ⟨List.append_nil a, hw⟩
      | cons y m =>
        obtain rfl : x = y := (List.cons.inj hm).1
        exact .inr ⟨m, by simp⟩
  · rintro (⟨rfl, hb⟩ | ⟨m, rfl⟩)
    · exact ⟨b, hb, rfl⟩
    · exact ⟨m ++ x :: b, by simp, by simp⟩

/-- The start of a guard reaches over the directory and the mark behind it, or ends in the
directory. -/
theorem guardShaped_iff (d s : String) :
    GuardShaped ("_" ++ d ++ "_" ++ s ++ "_H") ↔
      d = "BOARDS" ∧ s ≠ "" ∨ "BOARDS_".toList <+: d.toList := by
  have hguard : ("_" ++ d ++ "_" ++ s ++ "_H").toList =
      '_' :: (d.toList ++ '_' :: s.toList) ++ "_H".toList := by simp
  have hform (w : String) : ("_BOARDS_" ++ w ++ "_H").toList =
      '_' :: ("BOARDS".toList ++ '_' :: w.toList) ++ "_H".toList := by simp
  have hinner (w : String) : "_" ++ d ++ "_" ++ s ++ "_H" = "_BOARDS_" ++ w ++ "_H" ↔
      d.toList ++ '_' :: s.toList = "BOARDS".toList ++ '_' :: w.toList := by
    rw [← String.toList_inj, hguard, hform, List.append_left_inj, List.cons_inj_right]
  have hsome : GuardShaped ("_" ++ d ++ "_" ++ s ++ "_H") ↔
      ∃ w ≠ [], d.toList ++ '_' :: s.toList = "BOARDS".toList ++ '_' :: w := by
    constructor
    · rintro ⟨w, hw, h⟩
      exact ⟨w.toList, mt String.toList_eq_nil_iff.1 hw, (hinner w).1 h⟩
    · rintro ⟨w, hw, h⟩
      refine ⟨String.ofList w, mt String.ofList_eq_empty_iff.1 hw, (hinner _).2 ?_⟩
      rw [String.toList_ofList (l := w)]
      exact h
  have hstart : "BOARDS_".toList = "BOARDS".toList ++ ['_'] := by decide
  rw [hsome, exists_append_eq_iff (by decide), String.toList_inj, hstart, ne_eq,
    String.toList_eq_nil_iff]

/-! ## The names -/

/-- The names that follow from the path of a header in ASCII: the guard is made of the directory,
the detection name and the ending. Both names are in capitals. The classifier takes the guard for a
name, and the detection name too unless it is empty. The guard has the form of a guard if the
directory is `BOARDS` and the detection name is not empty, or the directory starts with `BOARDS_`,
and not otherwise. -/
theorem names_in_capitals (h : IsHeaderPath p d s) :
    (ofPath p).detection = inCapitals s ∧
    (ofPath p).guard = "_" ++ inCapitals d ++ "_" ++ (ofPath p).detection ++ "_H" ∧
    (∀ name ∈ [(ofPath p).guard, (ofPath p).detection],
      AllCapitals name ∧ isUpperName name = true) ∧
    IsName (ofPath p).guard ∧ (IsName (ofPath p).detection ↔ s ≠ "") ∧
    (isGuardShaped (ofPath p).guard = true ↔
      inCapitals d = "BOARDS" ∧ s ≠ "" ∨ "BOARDS_".toList <+: (inCapitals d).toList) := by
  have hdetection : AllCapitals (inCapitals s) := allCapitals_inCapitals h.ascii_file
  have hdirectory : AllCapitals (inCapitals d) := allCapitals_inCapitals h.ascii_directory
  have hguard : AllCapitals ("_" ++ inCapitals d ++ "_" ++ inCapitals s ++ "_H") := by
    have hmark : AllCapitals "_" := by decide
    have hend : AllCapitals "_H" := by decide
    simp only [allCapitals_append]
    exact ⟨⟨⟨⟨hmark, hdirectory⟩, hmark⟩, hdetection⟩, hend⟩
  rw [isGuardShaped_iff, h.guard_eq, h.detection_eq]
  refine ⟨rfl, rfl, ?_, ?_, ?_, ?_⟩
  · simp only [List.forall_mem_cons]
    exact ⟨⟨hguard, hguard.isUpperName⟩, ⟨hdetection, hdetection.isUpperName⟩, nofun⟩
  · rw [hguard.isName_iff]
    intro hempty
    simp [← String.toList_inj] at hempty
  · rw [hdetection.isName_iff, ne_eq, inCapitals_eq_empty_iff]
  · rw [guardShaped_iff, ne_eq, inCapitals_eq_empty_iff]

/-- A path with slashes that make no difference, and names with dots, dashes and letters of either
case. -/
def dottedPath : Path := ⟨"src/Boards-2.x//pico-w.v2.H/"⟩

theorem isHeaderPath_dotted : IsHeaderPath dottedPath "Boards-2.x" "pico-w.v2" where
  file := ⟨⟨"pico-w.v2.H", by decide, by decide⟩, by decide +kernel, .inr rfl⟩
  directory := ⟨⟨"Boards-2.x", by decide, by decide⟩, by decide +kernel, rfl⟩
  ascii_directory := by simp
  ascii_file := by simp

theorem names_in_capitals_dotted :
    IsHeaderPath dottedPath "Boards-2.x" "pico-w.v2" ∧
      (ofPath dottedPath).detection = "PICO_W_V2" ∧
      (ofPath dottedPath).guard = "_BOARDS_2_X_PICO_W_V2_H" ∧
      IsName (ofPath dottedPath).guard ∧ IsName (ofPath dottedPath).detection ∧
      isGuardShaped (ofPath dottedPath).guard = true := by
  have hfile : inCapitals "pico-w.v2" = "PICO_W_V2" := by decide
  have hdirectory : inCapitals "Boards-2.x" = "BOARDS_2_X" := by decide
  obtain ⟨hdetection, hguard, -, hname, hdetected, hshaped⟩ :=
    names_in_capitals isHeaderPath_dotted
  rw [hfile] at hdetection
  rw [hdirectory, hdetection] at hguard
  rw [hdirectory] at hshaped
  refine ⟨isHeaderPath_dotted, hdetection, hguard, hname, hdetected.2 (by decide), ?_⟩
  exact hshaped.2 (.inr (by decide))

/-- The path of a header that has its ending for a name. -/
def barePath : Path := ⟨"boards/.h"⟩

theorem isHeaderPath_bare : IsHeaderPath barePath "boards" "" where
  file := ⟨⟨".h", by decide, by decide⟩, by decide +kernel, .inl rfl⟩
  directory := ⟨⟨"boards", by decide, by decide⟩, by decide +kernel, rfl⟩
  ascii_directory := by simp
  ascii_file := by simp

/-- Nothing is left for the detection name of such a header, and the classifier takes nothing for no
name. -/
theorem bare_ending_is_no_name :
    IsHeaderPath barePath "boards" "" ∧ ¬ IsName (ofPath barePath).detection ∧
      classify ("#ifdef " ++ (ofPath barePath).detection) = unsupported .ifDefined "" := by
  have hnothing : (ofPath barePath).detection = "" := by
    rw [isHeaderPath_bare.detection_eq, inCapitals_empty]
  rw [hnothing]
  exact ⟨isHeaderPath_bare, fun h => h.ne_empty rfl, by decide +kernel⟩

end BoardLint.ExpectedNames
