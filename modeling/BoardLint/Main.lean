import BoardLint.CommandLine
import BoardLint.Disk.Snapshot

/-!
# The program

Reads the files that a check may need, and prints the outcome of the check on them.
-/

namespace BoardLint.Program

/-- The reason why a file cannot be read. -/
def readErrorOf (e : IO.Error) : ReadError :=
  match e with
  | .noFileOrDirectory .. => .notFound
  | .inappropriateType _ code _ | .unsupportedOperation code _ | .otherError code _ =>
    if code = 20 then .notADirectory
    else if code = 21 then .isADirectory
    else if code = 36 then .nameTooLong
    else .other (toString e)
  | e => .other (toString e)

/-- Reads a file as a text. -/
def readText (p : Path) : IO (Except ReadError String) := do
  if p.text.isEmpty then return .error .notFound
  try
    match String.fromUTF8? (← IO.FS.readBinFile p.text) with
    | some text => return .ok text
    | none => return .error .invalidText
  catch e => return .error (readErrorOf e)

/-- The headers that a text may include. -/
def includedNames (text : String) : List FileName :=
  (Text.lines text).filterMap fun line =>
    match Directive.classify line with
    | .includeFile path => Scan.includedName? path
    | _ => none

/-- Reads paths, and all headers in the directory that their texts may include. -/
partial def readAll (directory : Path) (known : Snapshot) : List Path → IO Snapshot
  | [] => return known
  | p :: rest => do
    if (known.lookup p).isSome then readAll directory known rest
    else
      let result ← readText p
      let more :=
        match result with
        | .ok text => (includedNames text).map directory.child
        | .error _ => []
      readAll directory (known ++ [(p, result)]) (more ++ rest)

/-- Reads all that a check may need. -/
def snapshotFor (job : CommandLine.Job) : IO Snapshot := do
  let headers ← readAll job.header.directory [] [job.header]
  let schemas ← Chip.all.mapM fun chip => do
    let p := chip.schemaPath job.options.sdk
    return (p, ← readText p)
  return headers ++ schemas

/-- The outcome of the arguments. -/
def outcomeOf (args : List String) : IO CommandLine.Outcome := do
  match CommandLine.parse args with
  | .ok (.check job) => return job.run Schema.Document.ofText (← snapshotFor job).disk
  | .ok request => return request.execute Schema.Document.ofText default
  | .error e => return e.outcome

end BoardLint.Program

def main (args : List String) : IO UInt32 := do
  let outcome ← BoardLint.Program.outcomeOf args
  IO.print outcome.stdout
  IO.eprint outcome.stderr
  return outcome.exitCode.toUInt32
