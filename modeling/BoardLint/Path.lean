/-!
# Paths

A path keeps the text in which it was written, and is compared by its components: repeated slashes,
a slash at the end and single dots inside it make no difference. A single dot at the start does.

`FileName` is a component that names an entry of a directory; `Path.child` is the path of such an
entry.
-/

namespace BoardLint

/-! ## File names -/

/-- The name of an entry of a directory. -/
structure FileName where
  text : String
  /-- The empty text and the dots name no entry. -/
  ordinary : text ≠ "" ∧ text ≠ "." ∧ text ≠ ".."
  /-- A slash separates names. -/
  slashless : '/' ∉ text.toList
deriving DecidableEq

namespace FileName

/-- The text as a file name, if it is one. -/
def ofString? (s : String) : Option FileName :=
  if h : (s ≠ "" ∧ s ≠ "." ∧ s ≠ "..") ∧ '/' ∉ s.toList then some ⟨s, h.1, h.2⟩ else none

instance : ToString FileName := ⟨FileName.text⟩

@[ext] theorem ext {a b : FileName} (h : a.text = b.text) : a = b := by
  cases a; cases b; simp_all

theorem ofString?_eq_some_iff {s : String} {n : FileName} : ofString? s = some n ↔ n.text = s := by
  unfold ofString?
  split
  · simp [FileName.ext_iff, eq_comm]
  · rename_i h
    simp only [reduceCtorEq, false_iff]
    rintro rfl
    exact h ⟨n.ordinary, n.slashless⟩

@[simp] theorem ofString?_text (n : FileName) : ofString? n.text = some n :=
  ofString?_eq_some_iff.2 rfl

end FileName

/-! ## Paths and components -/

/-- A path, as it was written. -/
structure Path where
  text : String
deriving DecidableEq, Repr, Inhabited

namespace Path

instance : ToString Path := ⟨Path.text⟩

/-- A step of a path. -/
inductive Component where
  /-- The root of all directories. -/
  | root
  /-- A dot at the start of the path. -/
  | current
  /-- Two dots: the directory above. -/
  | parent
  /-- An entry of the directory. -/
  | entry (name : FileName)
deriving DecidableEq

/-- The parts of a text between its slashes. -/
def pieces : List Char → List (List Char)
  | [] => [[]]
  | '/' :: cs => [] :: pieces cs
  | c :: cs =>
    match pieces cs with
    | [] => [[c]]
    | piece :: rest => (c :: piece) :: rest

theorem pieces_ne_nil (cs : List Char) : pieces cs ≠ [] := by
  fun_cases pieces cs <;> simp

theorem pieces_append_slash (a b : List Char) : pieces (a ++ '/' :: b) = pieces a ++ pieces b := by
  fun_induction pieces a with
  | case1 => simp [pieces]
  | case2 cs ih => simp [pieces, ih]
  | case3 c cs hc hp => exact absurd hp (pieces_ne_nil cs)
  | case4 c cs hc piece rest hp ih => simp_all [pieces]

theorem pieces_of_slashless {cs : List Char} (h : '/' ∉ cs) : pieces cs = [cs] := by
  induction cs with
  | nil => rfl
  | cons c cs ih =>
    simp only [List.mem_cons, not_or] at h
    unfold pieces
    split
    · simp_all
    · simp_all
    · simp_all

/-- Does the path start at the root? -/
def isAbsolute (p : Path) : Bool := p.text.toList.head? == some '/'

/-- Does the path start with a dot on its own? -/
def startsHere (p : Path) : Bool := (pieces p.text.toList).head? == some ['.']

/-- What a part between slashes stands for: nothing, if it is empty or a single dot. -/
def Component.ofPiece? (piece : List Char) : Option Component :=
  if piece = ['.', '.'] then some .parent
  else (FileName.ofString? (String.ofList piece)).map .entry

/-- The components of a path, from its start to its end. -/
def components (p : Path) : List Component :=
  (if p.isAbsolute then [.root] else if p.startsHere then [.current] else []) ++
    (pieces p.text.toList).filterMap Component.ofPiece?

/-- Do two paths have the same components? -/
def same (p q : Path) : Bool := p.components = q.components

/-- The name that the last component gives, if it is one of an entry. -/
def fileName? (p : Path) : Option FileName :=
  match p.components.getLast? with
  | some (.entry name) => some name
  | _ => none

/-- The file name as a text, which is empty where there is none. -/
def fileText (p : Path) : String := (p.fileName?.map FileName.text).getD ""

/-- The right path, as seen from the left one: an absolute path replaces it. -/
def join (p q : Path) : Path :=
  if q.isAbsolute then q
  else if p.text.toList.getLast?.all (· == '/') then ⟨p.text ++ q.text⟩
  else ⟨p.text ++ "/" ++ q.text⟩

/-- The path of an entry of a directory. -/
def child (p : Path) (name : FileName) : Path := p.join ⟨name.text⟩

/-! ## The parent -/

/-- Parts that stand for nothing. -/
def isBlankPiece (piece : List Char) : Bool := piece.isEmpty || piece == ['.']

/-- The parts less those at the end that stand for nothing. -/
def dropBlankPieces (ps : List (List Char)) : List (List Char) :=
  (ps.reverse.dropWhile isBlankPiece).reverse

/-- The text before the first part that can be cut off, and the parts after it. -/
def body (p : Path) : String × List (List Char) :=
  if p.isAbsolute then ("/", pieces (p.text.toList.drop 1))
  else if p.startsHere then (".", pieces (p.text.toList.drop 1))
  else ("", pieces p.text.toList)

/-- The path without its last component. -/
def parent? (p : Path) : Option Path :=
  let (start, parts) := p.body
  match dropBlankPieces parts with
  | [] => if start = "." then some ⟨""⟩ else none
  | part :: parts =>
    let kept := dropBlankPieces (part :: parts).dropLast
    some ⟨start ++ "/".intercalate (kept.map String.ofList)⟩

/-- The directory of a path: the empty path where it has no parent. -/
def directory (p : Path) : Path := p.parent?.getD ⟨""⟩

/-- The path of an entry ends in the name of the entry. -/
theorem exists_pieces_child (p : Path) (name : FileName) :
    ∃ init, pieces (p.child name).text.toList = init ++ [name.text.toList] := by
  have hn := pieces_of_slashless name.slashless
  have hrel : (Path.mk name.text).isAbsolute = false := by
    cases h : name.text.toList with
    | nil => simp [isAbsolute, h]
    | cons c cs =>
      have := name.slashless
      rw [h, List.mem_cons, not_or] at this
      simpa [isAbsolute, h] using Ne.symm this.1
  unfold child join
  simp only [hrel, Bool.false_eq_true, if_false]
  split
  · rename_i h
    rcases List.eq_nil_or_concat p.text.toList with he | ⟨init, c, he⟩
    · exact ⟨[], by simp [he, hn]⟩
    · obtain rfl : c = '/' := by simpa [he] using h
      exact ⟨pieces init, by
        rw [String.toList_append, he, List.concat_eq_append, List.append_assoc,
          List.singleton_append, pieces_append_slash, hn]⟩
  · exact ⟨pieces p.text.toList, by
      simp only [String.toList_append, List.append_assoc]
      rw [show "/".toList = ['/'] from rfl, List.singleton_append, pieces_append_slash, hn]⟩

@[simp] theorem ofPiece?_entry (name : FileName) :
    Component.ofPiece? name.text.toList = some (.entry name) := by
  have : name.text.toList ≠ ['.', '.'] := fun he => name.ordinary.2.2 (by
    rw [← String.ofList_toList (s := name.text), he])
  simp [Component.ofPiece?, this]

/-- The path of an entry has the name of the entry. -/
@[simp] theorem fileName?_child (p : Path) (name : FileName) :
    (p.child name).fileName? = some name := by
  obtain ⟨init, h⟩ := p.exists_pieces_child name
  simp [fileName?, components, h]

@[simp] theorem same_refl (p : Path) : p.same p = true := by simp [same]

theorem same_iff {p q : Path} : p.same q = true ↔ p.components = q.components := by simp [same]

theorem same_comm (p q : Path) : p.same q = q.same p := by simp [same, eq_comm]

end Path

end BoardLint
