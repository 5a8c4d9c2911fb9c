import BoardLint.Check
import BoardLint.Findings.Render

/-!
# The command line

The command checks one header. `CommandLine.parse` reads the arguments, and `CommandLine.execute`
gives what the command prints and its exit code.

A long option is given by its whole name, short ones can be joined, and `--` ends the options. A
request for help or for the version is met as soon as it is read; a fault that concerns all
arguments, such as a missing header, is noticed after the last of them.
-/

namespace BoardLint.CommandLine

/-- What is wrong with the arguments. -/
inductive UsageError where
  /-- There is no such option. -/
  | unknownOption (option : String)
  /-- The option takes no value. -/
  | unneededValue (option : String)
  /-- The option needs a value. -/
  | missingValue (option : String)
  /-- The option is given twice. -/
  | repeatedOption (option : String)
  /-- There is a header already. -/
  | extraArgument (argument : String)
  /-- There is no header. -/
  | missingHeader
deriving DecidableEq, Repr

/-- The fault in words. -/
def UsageError.message : UsageError → String
  | unknownOption option => "unknown option '" ++ option ++ "'"
  | unneededValue option => "the option '" ++ option ++ "' takes no value"
  | missingValue option => "the option '" ++ option ++ "' needs a value"
  | repeatedOption option => "the option '" ++ option ++ "' is given twice"
  | extraArgument argument => "unexpected argument '" ++ argument ++ "'"
  | missingHeader => "no header is given"

/-- A check that is asked for. -/
structure Job where
  header : Path
  options : Options
  /-- Are warnings printed? -/
  showWarnings : Bool
deriving DecidableEq, Repr

/-- What the arguments ask for. -/
inductive Request where
  | check (job : Job)
  | version
  | help
deriving DecidableEq, Repr

/-! ## Arguments -/

/-- An option without a value. -/
inductive Switch where
  | warnings
  | denyWarnings
  | requireSuggestion
  /-- Messages about progress. It is accepted, and a check has no progress to tell. -/
  | verbose
  | version
  | help
deriving DecidableEq, Repr

/-- The switch of a long name. -/
def Switch.ofName? : String → Option Switch
  | "warnings" => some warnings
  | "deny-warnings" => some denyWarnings
  | "require-include-suggestion" => some requireSuggestion
  | "verbose" => some verbose
  | "version" => some version
  | "help" => some help
  | _ => none

/-- The switch of a letter. -/
def Switch.ofLetter? : Char → Option Switch
  | 'W' => some warnings
  | 'v' => some verbose
  | 'V' => some version
  | 'h' => some help
  | _ => none

/-- What the arguments have said so far. -/
structure Arguments where
  header : Option String := none
  sdk : Option String := none
  showWarnings : Bool := false
  flags : Flags := {}
  /-- A fault that is noticed after the last argument. -/
  fault : Option UsageError := none

/-- Arguments may come to an end early: with a fault, or with a request that is met at once. -/
abbrev Parsed (α : Type) := Except (Except UsageError Request) α

/-- Breaks off at a fault. -/
def refuse {α : Type} (e : UsageError) : Parsed α := .error (.error e)

/-- A fault to be noticed at the end, unless there is one already. -/
def Arguments.defer (a : Arguments) (e : UsageError) : Arguments :=
  { a with fault := a.fault <|> some e }

/-- A switch. -/
def Arguments.turnOn (a : Arguments) : Switch → Parsed Arguments
  | .warnings => .ok { a with showWarnings := true }
  | .denyWarnings => .ok { a with flags := { a.flags with denyWarnings := true } }
  | .requireSuggestion => .ok { a with flags := { a.flags with requireSuggestion := true } }
  | .verbose => .ok a
  | .version => .error (.ok .version)
  | .help => .error (.ok .help)

/-- Joined switches. -/
def Arguments.turnOnAll (a : Arguments) : List Char → Parsed Arguments
  | [] => .ok a
  | c :: cs =>
    match Switch.ofLetter? c with
    | some s => (a.turnOn s).bind (·.turnOnAll cs)
    | none => refuse (.unknownOption (String.ofList ['-', c]))

/-- The root of the SDK. -/
def Arguments.setSdk (a : Arguments) (value : String) : Parsed Arguments :=
  if value.isEmpty then refuse (.missingValue "--sdk")
  else if a.sdk.isSome then .ok (a.defer (.repeatedOption "--sdk"))
  else .ok { a with sdk := some value }

/-- The header. -/
def Arguments.setHeader (a : Arguments) (value : String) : Parsed Arguments :=
  if a.header.isSome then refuse (.extraArgument value)
  else if value.isEmpty then refuse (.missingValue "HEADER")
  else .ok { a with header := some value }

/-- A long option with a value behind an equals sign. -/
def Arguments.setLong (a : Arguments) (name value : String) : Parsed Arguments :=
  if name = "sdk" then a.setSdk value
  else if (Switch.ofName? name).isSome then refuse (.unneededValue ("--" ++ name))
  else refuse (.unknownOption ("--" ++ name))

/-- A long option without a value. -/
def Arguments.turnOnLong (a : Arguments) (name : String) : Parsed Arguments :=
  match Switch.ofName? name with
  | some s => a.turnOn s
  | none => refuse (.unknownOption ("--" ++ name))

/-- Can the argument be the value of an option? -/
def isValue (argument : String) : Bool := argument == "-" || !Text.startsWith "-" argument

/-- An argument that needs none of the next ones. -/
def Arguments.read (a : Arguments) (argument : String) : Parsed Arguments :=
  match argument.toList with
  | '-' :: '-' :: name =>
    match name.dropWhile (· != '=') with
    | [] => a.turnOnLong (String.ofList name)
    | _ :: value => a.setLong (String.ofList (name.takeWhile (· != '='))) (String.ofList value)
  | '-' :: c :: letters => a.turnOnAll (c :: letters)
  | _ => a.setHeader argument

/-- All arguments. -/
def Arguments.readAll (a : Arguments) : List String → Parsed Arguments
  | [] => .ok a
  | "--" :: rest => rest.foldlM setHeader a
  | "--sdk" :: value :: rest =>
    if isValue value then (a.setSdk value).bind (·.readAll rest)
    else (a.defer (.missingValue "--sdk")).readAll (value :: rest)
  | "--sdk" :: [] => .ok (a.defer (.missingValue "--sdk"))
  | argument :: rest => (a.read argument).bind (·.readAll rest)
termination_by args => args.length

/-- What arguments without faults ask for. -/
def Arguments.request (a : Arguments) : Except UsageError Request :=
  match a.fault, a.header with
  | some e, _ => .error e
  | none, none => .error .missingHeader
  | none, some header =>
    .ok (.check ⟨⟨header⟩, ⟨⟨a.sdk.getD "."⟩, a.flags⟩, a.showWarnings⟩)

/-- What the arguments ask for. -/
def parse (args : List String) : Except UsageError Request :=
  match Arguments.readAll {} args with
  | .ok a => a.request
  | .error early => early

/-! ## Outcomes -/

/-- What the command prints, and its exit code. -/
structure Outcome where
  exitCode : Nat
  stdout : String := ""
  stderr : String := ""
deriving DecidableEq, Repr

/-- The line that tells the version. -/
def versionLine : String := "boardcheck 1.0.0\n"

/-- A reminder of the arguments. -/
def usage : String :=
  "usage: boardcheck [--sdk DIR] [-W] [--deny-warnings] [--require-include-suggestion] HEADER\n"

/-- The warnings, where they are asked for and there are any. -/
def warningsText (job : Job) (warnings : List (Located Issue)) : String :=
  if job.showWarnings && !warnings.isEmpty then renderAll "warning" warnings else ""

/-- Runs a check. -/
def Job.run (job : Job) (decode : Schema.Document.Reader) (disk : Disk) : Outcome :=
  if disk.isFile job.header then
    match check decode disk job.header job.options with
    | .ok report => { exitCode := 0, stderr := warningsText job report.warnings }
    | .error failure =>
      { exitCode := 1, stderr := warningsText job failure.warnings ++ failure.render ++ "\n" }
  else { exitCode := 1, stderr := "Error: " ++ job.header.text ++ " doesn't exist\n" }

/-- Meets a request. -/
def Request.execute (decode : Schema.Document.Reader) (disk : Disk) : Request → Outcome
  | check job => job.run decode disk
  | version => { exitCode := 0, stdout := versionLine }
  | help => { exitCode := 0, stdout := usage }

/-- The outcome of arguments with a fault. -/
def UsageError.outcome (e : UsageError) : Outcome :=
  { exitCode := 2, stderr := "error: " ++ e.message ++ "\n" ++ usage }

/-- Runs the command. -/
def run (decode : Schema.Document.Reader) (disk : Disk) (args : List String) : Outcome :=
  match parse args with
  | .ok request => request.execute decode disk
  | .error e => e.outcome

end BoardLint.CommandLine
