import BoardLint.Disk

/-!
# File trees

A finite tree of files and folders below a working directory. Paths are followed name by name:
every part before a slash has to be a folder. Above the working directory there are folders, but
nothing that a name could find.

`FileTree.disk` is the disk that a tree makes.
-/

namespace BoardLint

/-- Files with their bytes, and folders, each at its place below the working directory. -/
structure FileTree where
  files : List (List FileName × ByteArray)
  folders : List (List FileName)

namespace FileTree

/-- Where a path has led so far. -/
inductive Place where
  /-- The names from the working directory down. -/
  | inside (names : List FileName)
  /-- Above the working directory. -/
  | outside
deriving DecidableEq

/-- The place above. -/
def Place.above : Place → Place
  | inside names => if names.isEmpty then outside else inside names.dropLast
  | outside => outside

/-- Is there a folder at these names? Each file and folder has folders above it. -/
def hasFolder (t : FileTree) (names : List FileName) : Bool :=
  names.isEmpty || t.folders.any (names.isPrefixOf ·) ||
    t.files.any (names.isPrefixOf ·.1.dropLast)

/-- The bytes of the file at these names. -/
def file? (t : FileTree) (names : List FileName) : Option ByteArray := t.files.lookup names

/-- Is the place a folder? -/
def isFolder (t : FileTree) : Place → Bool
  | .inside names => t.hasFolder names
  | .outside => true

/-- The greatest size of a name, in bytes. -/
def maxNameSize : Nat := 255

/-- The greatest size of a path, in bytes. -/
def maxPathSize : Nat := 4095

/-- The entry of a folder. -/
def entry (t : FileTree) (name : FileName) : Place → Except ReadError Place
  | .outside => .error .notFound
  | .inside names =>
    if t.hasFolder (names ++ [name]) || (t.file? (names ++ [name])).isSome then
      .ok (.inside (names ++ [name]))
    else .error .notFound

/-- One part of a path leads from a folder on. -/
def follow (t : FileTree) (place : Place) (piece : List Char) : Except ReadError Place :=
  if !t.isFolder place then .error .notADirectory
  else
    match Path.Component.ofPiece? piece with
    | some (.entry name) =>
      if name.text.utf8ByteSize > maxNameSize then .error .nameTooLong else t.entry name place
    | some .parent => .ok place.above
    | _ => .ok place

/-- The place that a path leads to. -/
def locate (t : FileTree) (p : Path) : Except ReadError Place :=
  (Path.pieces p.text.toList).foldlM t.follow (if p.isAbsolute then .outside else .inside [])

/-- The text of the file at a place. -/
def readPlace (t : FileTree) : Place → Except ReadError String
  | .outside => .error .isADirectory
  | .inside names =>
    match t.file? names with
    | none => .error .isADirectory
    | some bytes =>
      match String.fromUTF8? bytes with
      | none => .error .invalidText
      | some text => .ok text

/-- The text of the file at a path. -/
def read (t : FileTree) (p : Path) : Except ReadError String :=
  if '\x00' ∈ p.text.toList then .error .nulInPath
  else if p.text.isEmpty then .error .notFound
  else if p.text.utf8ByteSize > maxPathSize then .error .nameTooLong
  else (t.locate p).bind t.readPlace

/-- The names of all files. -/
def fileNames (t : FileTree) : List FileName := t.files.filterMap (·.1.getLast?)

theorem mem_fileNames {t : FileTree} {names : List FileName} {name : FileName} {bytes : ByteArray}
    (h : t.file? (names ++ [name]) = some bytes) : name ∈ t.fileNames := by
  obtain ⟨before, after, hf, -⟩ := List.lookup_eq_some_iff.1 h
  exact List.mem_filterMap.2 ⟨(names ++ [name], bytes), by simp [hf], by simp⟩

/-- Only a name of a file can be read at the end of a path. -/
theorem mem_fileNames_of_read {t : FileTree} {directory : Path} {name : FileName} {text : String}
    (h : t.read (directory.child name) = .ok text) : name ∈ t.fileNames := by
  obtain ⟨init, hp⟩ := directory.exists_pieces_child name
  have hc := Path.ofPiece?_entry name
  unfold read at h
  split at h
  · simp at h
  split at h
  · simp at h
  split at h
  · simp at h
  cases hl : t.locate (directory.child name) with
  | error e => simp [hl, Except.bind] at h
  | ok place =>
    rw [hl] at h
    simp only [Except.bind] at h
    unfold locate at hl
    rw [hp, List.foldlM_append] at hl
    cases hi : init.foldlM t.follow
        (if (directory.child name).isAbsolute then .outside else .inside []) with
    | error e => rw [hi] at hl; simp [bind, Except.bind] at hl
    | ok before =>
      rw [hi] at hl
      simp only [bind, Except.bind, List.foldlM_cons, List.foldlM_nil, pure, Except.pure] at hl
      cases hf : t.follow before name.text.toList with
      | error e => simp [hf] at hl
      | ok after =>
        simp only [hf, Except.ok.injEq] at hl
        subst hl
        unfold follow at hf
        rw [hc] at hf
        split at hf
        · simp at hf
        simp only at hf
        split at hf
        · simp at hf
        cases before with
        | outside => simp [entry] at hf
        | inside names =>
          simp only [entry] at hf
          split at hf
          · simp only [Except.ok.injEq] at hf
            subst hf
            simp only [readPlace] at h
            cases hb : t.file? (names ++ [name]) with
            | none => simp [hb] at h
            | some bytes => exact mem_fileNames hb
          · simp at hf

/-- The disk that a tree makes. -/
def disk (t : FileTree) : Disk where
  read := t.read
  listing _ := t.fileNames
  mem_listing := mem_fileNames_of_read

end FileTree

end BoardLint
