import BoardLint.Disk

/-!
# Snapshots

A snapshot is a disk on which some paths have been read, and nothing else is known to be.
-/

namespace BoardLint

/-- What reading some paths has given. -/
abbrev Snapshot := List (Path × Except ReadError String)

namespace Snapshot

/-- What reading a path has given. -/
def read (s : Snapshot) (p : Path) : Except ReadError String :=
  (s.lookup p).getD (.error .notFound)

@[simp] theorem read_cons_self (p : Path) (result : Except ReadError String) (s : Snapshot) :
    read ((p, result) :: s) p = result := by
  simp [read]

theorem read_cons_of_ne {p q : Path} (h : q ≠ p) (result : Except ReadError String)
    (s : Snapshot) : read ((p, result) :: s) q = read s q := by
  simp only [read, List.lookup_cons, beq_eq_false_iff_ne.2 h]

/-- The names of all paths that have been read. -/
def fileNames (s : Snapshot) : List FileName := s.filterMap (·.1.fileName?)

theorem mem_fileNames_of_read {s : Snapshot} {directory : Path} {name : FileName} {text : String}
    (h : s.read (directory.child name) = .ok text) : name ∈ s.fileNames := by
  unfold read at h
  cases hl : s.lookup (directory.child name) with
  | none => simp [hl] at h
  | some result =>
    obtain ⟨before, after, hs, -⟩ := List.lookup_eq_some_iff.1 hl
    exact List.mem_filterMap.2 ⟨(directory.child name, result), by simp [hs], by simp⟩

/-- The disk that a snapshot shows. -/
def disk (s : Snapshot) : Disk where
  read := s.read
  listing _ := s.fileNames
  mem_listing := mem_fileNames_of_read

theorem read_disk_cons_self (p : Path) (result : Except ReadError String) (s : Snapshot) :
    (disk ((p, result) :: s)).read p = result := read_cons_self p result s

end Snapshot

end BoardLint
