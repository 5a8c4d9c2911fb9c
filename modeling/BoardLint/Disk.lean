import BoardLint.Path

/-!
# Disks

A disk is what the checker knows of a file system: the text of the file at each path, or the reason
why there is none. In any directory finitely many names can be read, so that a descent into files
of one directory that enters no file twice comes to an end.
-/

namespace BoardLint

/-- Why a file cannot be read as a text. -/
inductive ReadError where
  /-- Nothing has this path. -/
  | notFound
  /-- A file is used as a directory. -/
  | notADirectory
  /-- The path is one of a directory. -/
  | isADirectory
  /-- A name or the whole path is too long. -/
  | nameTooLong
  /-- The bytes of the file are not UTF-8. -/
  | invalidText
  /-- The path holds a NUL character. -/
  | nulInPath
  /-- Any other reason, in words. -/
  | other (reason : String)
deriving DecidableEq, Repr

namespace ReadError

/-- The reason in words. -/
def message : ReadError → String
  | notFound => "No such file or directory (os error 2)"
  | notADirectory => "Not a directory (os error 20)"
  | isADirectory => "Is a directory (os error 21)"
  | nameTooLong => "File name too long (os error 36)"
  | invalidText => "stream did not contain valid UTF-8"
  | nulInPath => "file name contained an unexpected NUL byte"
  | other reason => reason

instance : ToString ReadError := ⟨message⟩

end ReadError

/-- Readable files with finitely many names in each directory. -/
structure Disk where
  /-- The text of the file at a path. -/
  read : Path → Except ReadError String
  /-- Names in a directory, among them all whose file can be read. -/
  listing : Path → List FileName
  /-- Only a listed name can be read. -/
  mem_listing : ∀ {directory : Path} {name : FileName} {text : String},
    read (directory.child name) = .ok text → name ∈ listing directory

namespace Disk

/-- Is there a file at the path, whatever its bytes are? -/
def isFile (disk : Disk) (p : Path) : Bool :=
  match disk.read p with
  | .ok _ => true
  | .error e => e == .invalidText

/-- The disk without any file. -/
def empty : Disk where
  read _ := .error .notFound
  listing _ := []
  mem_listing := by simp

instance : Inhabited Disk := ⟨empty⟩

end Disk

end BoardLint
