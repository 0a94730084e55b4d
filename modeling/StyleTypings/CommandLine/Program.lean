import StyleTypings.CommandLine.Arguments
import StyleTypings.Config
import StyleTypings.Log
import StyleTypings.Reconcile

/-!
# The program

What the program does with its arguments: it loads the configuration and looks after one
resource after the other. A resource that fails is reported, and the others are still looked
after; the exit code tells whether any failed. A failure of a kind that is not expected ends the
program at once and is handed to the caller, with all that was printed before. Both outputs are
streams that take any text, as those of a caller that collects them do; what a terminal makes of a
surrogate is not said here.
-/

namespace StyleTypings.CommandLine

/-- What the program printed so far, and the disk. -/
structure Progress where
  /-- The standard output. -/
  stdout : Text := []
  /-- The standard error output. -/
  stderr : Text := []
  /-- The disk. -/
  disk : Disk
  /-- How many resources failed. -/
  failures : Nat := 0
  deriving DecidableEq, Repr

/-- How the program ended. -/
structure Finish where
  /-- The exit code, or the failure that ended the program. -/
  exit : Except Failure Nat
  /-- The standard output. -/
  stdout : Text
  /-- The standard error output. -/
  stderr : Text
  /-- The disk. -/
  disk : Disk
  /-- The logger; it is absent if the program ended before it was configured. -/
  log : Option Log
  /-- The host and the socket at which the service is to be run. -/
  served : Option (Text × Int) := none

/-- The options for a job. -/
def optionsFor (job : Job) (namedExports : Bool) (options : Options) : Options where
  mode := match job with
    | .emit => Mode.emit.text
    | .verify => Mode.verify.text
    | .reconcile => options.mode
  namedExports := namedExports || options.namedExports

/-- The path of the compiled module of a resource. -/
def compiledPath (compiled : Option Path) (resource : Text) : Path :=
  compiled.getD (Path.ofText (resource ++ Path.compiledSuffix))

/-- A path as it is shown: below the working directory it is shown from there. -/
def shownPath (disk : Disk) (path : Path) : Text :=
  let place := disk.resolve path
  if disk.working.isPrefixOf place then
    Path.text ⟨.working, place.drop disk.working.length⟩
  else path.text

/-- The part of the package that reconciles, as the logger knows it. -/
def reconcilerPart : Text := "reconciler".toText

/-- The remarks of a reconciliation as the logger prints them. -/
def notesText (log : Log) (disk : Disk) (notes : List Note) : Text :=
  notes.flatMap fun note =>
    match log.write disk [] (some reconcilerPart) .debug note.message with
    | .ok (text, _) => text
    | .error _ => []

/-- Reconciles a resource with its compiled module. -/
def reconcileResource (disk : Disk) (options : Options) (compiled : Option Path)
    (resource : Text) : Run Outcome :=
  match Config.readText disk (compiledPath compiled resource) with
  | .error cause => ⟨.error cause, disk, [], []⟩
  | .ok content => reconcile disk { content, resource, options }

/-- The line about a resource that was looked after. -/
def successLine (disk : Disk) (outcome : Outcome) : Text :=
  (if outcome.written then "Declaration written to ".toText
    else "Declaration up to date: ".toText) ++ shownPath disk outcome.declaration ++ ['\n']

/-- The line about a resource that failed. -/
def failureLine (resource : Text) (cause : Failure) : Text :=
  resource ++ .char ':' :: .char ' ' :: cause.message ++ ['\n']

/-- Looks after one resource. A failure of an unexpected kind comes back with the progress. -/
def processResource (log : Log) (options : Options) (compiled : Option Path)
    (progress : Progress) (resource : Text) : Progress × Option Failure :=
  let run := reconcileResource progress.disk options compiled resource
  let stderr := progress.stderr ++ notesText log run.disk run.notes
  match run.result with
  | .ok outcome =>
    ({ progress with
        stdout := progress.stdout ++ successLine run.disk outcome
        stderr
        disk := run.disk }, none)
  | .error cause =>
    if cause.isReport || cause.isRefusal then
      ({ progress with
          stderr := stderr ++ failureLine resource cause
          disk := run.disk
          failures := progress.failures + 1 }, none)
    else ({ progress with stderr, disk := run.disk }, some cause)

/-- Looks after resources until one fails unexpectedly. -/
def processAll (log : Log) (options : Options) (compiled : Option Path) :
    Progress → List Text → Progress × Option Failure
  | progress, [] => (progress, none)
  | progress, resource :: resources =>
    match processResource log options compiled progress resource with
    | (progress, some cause) => (progress, some cause)
    | (progress, none) => processAll log options compiled progress resources

/-- The closing line about failures. -/
def failuresLine (job : Job) (failures : Nat) : Text :=
  "cssdts ".toText ++ job.text ++ " failed for ".toText ++ Text.ofNat failures ++
    " resource(s)\n".toText

/-- The complaint about a compiled module that is given for several resources. -/
def compiledComplaint : Text := "--compiled can only be used with a single RESOURCE\n".toText

/-- Looks after the declarations of resources. -/
def runJob (environment : Environment) (disk : Disk) (log : Log) (config : Path) (job : Job)
    (resources : List Text) (compiled : Option Path) (namedExports : Bool) : Finish :=
  let finish := fun (exit : Except Failure Nat) (progress : Progress) (closing : Text) =>
    ({ exit
       stdout := progress.stdout
       stderr := progress.stderr ++ closing
       disk := progress.disk
       log := some log } : Finish)
  let start : Progress := { disk }
  if compiled.isSome && 1 < resources.length then finish (.ok 1) start compiledComplaint
  else match Config.load environment disk config with
    | .error cause =>
      if cause.isReport then finish (.ok 1) start (cause.message ++ ['\n'])
      else finish (.error cause) start []
    | .ok config =>
      let options := optionsFor job namedExports config.options
      match processAll log options compiled start resources with
      | (progress, some cause) => finish (.error cause) progress []
      | (progress, none) =>
        if progress.failures = 0 then finish (.ok 0) progress []
        else finish (.ok 1) progress (failuresLine job progress.failures)

/-- Runs a command. -/
def runCommand (environment : Environment) (disk : Disk) (arguments : Arguments) : Finish :=
  let log := Log.forConsole arguments.verbose arguments.quiet
  match arguments.command with
  | .serve host socket =>
    { exit := .ok 0, stdout := [], stderr := [], disk, log := some log,
      served := some (host, socket) }
  | .reconcile job resources compiled namedExports =>
    runJob environment disk log arguments.config job resources compiled namedExports

/-- The end of a program whose arguments are not acted on. -/
def Stop.finish (disk : Disk) : Stop → Finish
  | .help grammar => { exit := .ok 0, stdout := grammar.help, stderr := [], disk, log := none }
  | .misuse grammar message =>
    { exit := .ok 2
      stdout := []
      stderr := grammar.usage ++ grammar.program ++ ": error: ".toText ++ message ++ ['\n']
      disk
      log := none }

/-- Runs the program with its arguments. -/
def run (environment : Environment) (disk : Disk) (texts : List Text) : Finish :=
  match Arguments.read texts with
  | .error stop => stop.finish disk
  | .ok arguments => runCommand environment disk arguments

end StyleTypings.CommandLine
