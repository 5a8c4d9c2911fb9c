import BoardLint.Disk
import BoardLint.Proofs.Path.Directory
import Mathlib.Data.Finset.Dedup
import Mathlib.Data.Finset.Filter

/-!
# Files and their names

The files of a directory that can be read (`Disk.readable`), and disks on which a file is found by
its name however its path was written (`Disk.Named`). Such are all disks on which equal paths are
paths of one file.
-/

namespace BoardLint

namespace Disk

/-- The names of the files in a directory that can be read. -/
def readable (disk : Disk) (directory : Path) : Finset FileName :=
  {name ∈ (disk.listing directory).toFinset | (disk.read (directory.child name)).isOk}

variable {disk : Disk} {directory : Path} {name : FileName}

theorem mem_readable_iff :
    name ∈ disk.readable directory ↔ ∃ text, disk.read (directory.child name) = .ok text := by
  rw [readable, Finset.mem_filter, List.mem_toFinset]
  constructor
  · rintro ⟨-, h⟩
    cases hread : disk.read (directory.child name) with
    | ok text => exact ⟨text, rfl⟩
    | error reason => simp [hread, Except.isOk, Except.toBool] at h
  · rintro ⟨text, h⟩
    exact ⟨disk.mem_listing h, by simp [h, Except.isOk, Except.toBool]⟩

/-- Only files can be read, and each of them is found by its name in the directory of its path: the
path as it is written and the one that is put together again are equal (`Path.same_child_iff`), and
they are of one file. -/
def Named (disk : Disk) : Prop :=
  ∀ {path : Path} {text : String}, disk.read path = .ok text →
    ∃ name, path.fileName? = some name ∧ disk.read (path.directory.child name) = .ok text

/-- Where equal paths are paths of one file, and only paths with a file name can be read, all files
are found by their names. -/
theorem named_of_same (hsame : ∀ {p q : Path}, p.same q = true → disk.read p = disk.read q)
    (hfile : ∀ {p : Path} {text : String}, disk.read p = .ok text → p.fileName? ≠ none) :
    disk.Named := by
  intro path text h
  obtain ⟨name, hname⟩ := Option.ne_none_iff_exists'.1 (hfile h)
  exact ⟨name, hname, (hsame (Path.same_child_iff.2 hname)).symm.trans h⟩

/-! ## Disks with a list of files -/

/-- The text of the file at a path, among these files. -/
def readFile (files : List (Path × String)) (p : Path) : Except ReadError String :=
  match files.find? (·.1.same p) with
  | some file => .ok file.2
  | none => .error .notFound

theorem exists_mem_of_readFile {files : List (Path × String)} {p : Path} {text : String}
    (h : readFile files p = .ok text) : ∃ file ∈ files, file.1.same p = true := by
  unfold readFile at h
  split at h
  · rename_i file hfind
    exact ⟨file, List.mem_of_find?_eq_some hfind, by simpa using List.find?_some hfind⟩
  · exact absurd h nofun

theorem readFile_congr {files : List (Path × String)} {p q : Path} (h : p.same q = true) :
    readFile files p = readFile files q := by
  unfold readFile Path.same
  rw [Path.same_iff.1 h]

/-- The disk that has these files and nothing else, each at all paths that equal its own. -/
def ofFiles (files : List (Path × String)) : Disk where
  read := readFile files
  listing _ := files.filterMap (·.1.fileName?)
  mem_listing h := by
    obtain ⟨file, hfile, hsame⟩ := exists_mem_of_readFile h
    exact List.mem_filterMap.2 ⟨file, hfile, Path.fileName?_of_same_child hsame⟩

theorem named_ofFiles {files : List (Path × String)}
    (h : ∀ file ∈ files, file.1.fileName? ≠ none) : (ofFiles files).Named := by
  refine named_of_same readFile_congr fun hread => ?_
  obtain ⟨file, hfile, hsame⟩ := exists_mem_of_readFile hread
  rw [← Path.fileName?_congr hsame]
  exact h file hfile

end Disk

end BoardLint
