import CobolSubset.Command.Job
import CobolSubset.Command.Pool
import CobolSubset.Files.SourceName
import CobolSubset.Json.Pretty

/-!
# Batches

All COBOL files of a directory are converted in one go. The directory is scanned and every job is
planned before the first one is done, so that no two of them write to one file.
-/

namespace CobolSubset

/-- What a command has written, and how it ended. -/
structure Run where
  output : Text
  result : Except Failure Unit := .ok ()

namespace Batch

/-! ### Planning -/

/-- Whether a file of a directory is taken: its extension is that of COBOL files. -/
def isSource (path : Path) : Bool := path.extension?.any isCobolExtension

def filePath (directory : Path) (names : List Text) : Path := names.foldl Path.join directory

/-- The job for a file below the input directory, given by the names that lead to it. Its output
stands at the same place below the output directory. -/
def planFile (choices : BatchChoices) (names : List Text) : Job :=
  Job.plan choices.code (filePath choices.input names) none
    (Path.join choices.outputDirectory (Text.join ['/'] names.dropLast))

/-- The jobs for the files of a directory, in the order of their paths. -/
def plan (choices : BatchChoices) (files : List (List Text)) : List Job :=
  let sources := files.filter fun names => isSource (filePath choices.input names)
  (sources.map (planFile choices)).mergeSort fun a b => Path.le a.input b.input

/-- The first two jobs that would write to one file, given the jobs before them. -/
def collision? (before : List Job) : List Job → Option (Job × Job)
  | [] => none
  | job :: more =>
    match before.find? fun other => Path.same other.output job.output with
    | some other => some (other, job)
    | none => collision? (job :: before) more

def collisionFailure (first second : Job) : Failure :=
  ⟨first.input ++ " and ".toList ++ second.input ++ " would both be written to ".toList ++ second.output, []⟩

def scanFailure (directory : Path) (error : FileError) : Failure :=
  ⟨"Failed to scan ".toList ++ directory,
    ["IO error for operation on ".toList ++ directory ++ ": ".toList ++ error.message, error.message]⟩

/-! ### Reports -/

def heading (choices : BatchChoices) (jobs : Nat) : Text :=
  "\nBatch transpilation\n  Source: ".toList ++ choices.input ++ "\n  Output: ".toList
    ++ choices.outputDirectory ++ "\n  Jobs: ".toList ++ Text.ofNat jobs ++ ['\n']

def failureLine (failed : Job × Failure) : Text :=
  "[ERR] ".toList ++ failed.1.input ++ ": ".toList ++ failed.2.line ++ ['\n']

def textReport (successful : Nat) (failures : List (Job × Failure)) : Text :=
  failures.flatMap failureLine ++ "\n[OK] Batch complete!\n  ".toList ++ Text.ofNat successful
    ++ " successful, ".toList ++ Text.ofNat failures.length ++ " failed\n".toList

def jsonReport (successful : Nat) (failures : List (Job × Failure)) : Json :=
  .object [("successful".toList, .ofNat successful),
    ("failed".toList, .array (failures.map fun (job, failure) =>
      .object [("file".toList, .string job.input), ("error".toList, .string failure.line)]))]

def report (invocation : Invocation) (successful : Nat) (failures : List (Job × Failure)) : Text :=
  if invocation.quiet then []
  else
    match invocation.format with
    | .text => textReport successful failures
    | .json => (jsonReport successful failures).pretty ++ ['\n']

/-- How a batch ends whose jobs are all done or given up. -/
def conclude (invocation : Invocation) (keepGoing : Bool) (total : Nat) (pool : Pool Job Failure) : Run :=
  let failures := pool.failures.mergeSort fun a b => Path.le a.1.input b.1.input
  match keepGoing, failures with
  | false, (_, failure) :: _ => { output := [], result := .error failure }
  | _, [] => { output := report invocation pool.succeeded [] }
  | _, failures =>
    { output := report invocation pool.succeeded failures
      result := .error ⟨Text.ofNat failures.length ++ " of ".toList ++ Text.ofNat total
        ++ " files failed".toList, []⟩ }

/-! ### Running -/

variable {m : Type → Type} [Monad m]

/-- Does the jobs, several at a time, and reports on them. The order says which workers make the
first steps. -/
def perform (disk : Disk m) (invocation : Invocation) (choices : BatchChoices) (jobs : List Job)
    (order : List Nat := []) : m Run := do
  let symbols := choices.code.symbols
  let workers := min (max choices.jobs 1) jobs.length
  let pool ← Pool.run choices.keepGoing workers jobs
    (fun job => ((Job.run disk symbols job).map fun _ => ()).run) order
  return conclude invocation choices.keepGoing jobs.length pool

/-- Plans the jobs for the files that were found, and does them unless two of them collide. -/
def runFound (disk : Disk m) (invocation : Invocation) (choices : BatchChoices) (files : List (List Text))
    (order : List Nat := []) : m Run := do
  let jobs := plan choices files
  if jobs.isEmpty then
    return { output := if invocation.quiet then [] else "[ERR] No COBOL source files found!\n".toList }
  let found :=
    if invocation.decorated then "  Found: ".toList ++ Text.ofNat jobs.length ++ " files\n\n".toList else []
  match collision? [] jobs with
  | some (first, second) => return { output := found, result := .error (collisionFailure first second) }
  | none =>
    let run ← perform disk invocation choices jobs order
    return { run with output := found ++ run.output }

/-- Converts all COBOL files of a directory. -/
def run (disk : Disk m) (invocation : Invocation) (choices : BatchChoices) (order : List Nat := []) :
    m Run := do
  let opening := if invocation.decorated then heading choices (max choices.jobs 1) else []
  match ← disk.scan choices.input choices.recursive with
  | .error e => return { output := opening, result := .error (scanFailure choices.input e) }
  | .ok files =>
    let run ← runFound disk invocation choices files order
    return { run with output := opening ++ run.output }

end Batch

end CobolSubset
