import StyleTypings.CommandLine.Program

/-!
# Looking after resources one by one

The program attempts one resource after the other. As long as every failure is contained, that
is a report of the library or a refusal of the system, all resources are attempted, and what
the program prints, its exit code and the disk are read off the attempts. The first failure of
another kind ends the program. What a single attempt does to the disk is not said here.
-/

namespace StyleTypings

/-- A failure after which the program goes on with the next resource. -/
def Failure.IsContained (cause : Failure) : Prop := (cause.isReport || cause.isRefusal) = true

instance (cause : Failure) : Decidable cause.IsContained :=
  inferInstanceAs (Decidable ((cause.isReport || cause.isRefusal) = true))

namespace CommandLine

/-- A resource that was looked after. -/
structure Attempt where
  /-- The resource. -/
  resource : Text
  /-- The disk before it. -/
  before : Disk
  /-- What can be told of it. -/
  run : Run Outcome

/-- The attempts at resources, each on the disk that the one before it leaves, whatever comes of
them. -/
def attempts (options : Options) (compiled : Option Path) : Disk → List Text → List Attempt
  | _, [] => []
  | disk, resource :: resources =>
    let run := reconcileResource disk options compiled resource
    ⟨resource, disk, run⟩ :: attempts options compiled run.disk resources

/-- The disk that attempts leave. -/
def diskBehind (disk : Disk) : List Attempt → Disk
  | [] => disk
  | attempt :: later => diskBehind attempt.run.disk later

namespace Attempt

/-- The failure, if it failed. -/
def failure? (attempt : Attempt) : Option Failure :=
  match attempt.run.result with
  | .ok _ => none
  | .error cause => some cause

/-- The line about its success, if it succeeded. -/
def line? (attempt : Attempt) : Option Text :=
  match attempt.run.result with
  | .ok outcome => some (successLine attempt.run.disk outcome)
  | .error _ => none

/-- What is printed on the standard error output about it. -/
def diagnostics (log : Log) (attempt : Attempt) : Text :=
  notesText log attempt.run.disk attempt.run.notes ++
    (attempt.failure?.map (failureLine attempt.resource)).getD []

/-- It succeeded, or the program goes on after its failure. -/
def Contained (attempt : Attempt) : Prop :=
  ∀ cause, attempt.run.result = .error cause → cause.IsContained

end Attempt

/-- The resources whose attempts failed, in order. -/
def failing (tries : List Attempt) : List Text :=
  (tries.filter fun attempt => attempt.failure?.isSome).map Attempt.resource

/-- What was printed, and the disk, behind further attempts. -/
def Progress.behind (progress : Progress) (log : Log) (tries : List Attempt) : Progress where
  stdout := progress.stdout ++ (tries.filterMap Attempt.line?).flatten
  stderr := progress.stderr ++ tries.flatMap (Attempt.diagnostics log)
  disk := diskBehind progress.disk tries
  failures := progress.failures + (failing tries).length

/-- The run of the program ends at a resource: it fails in a way that is not contained, and none
before it does. -/
structure EndsAt (options : Options) (compiled : Option Path) (disk : Disk)
    (resources front : List Text) (attempt : Attempt) (cause : Failure) : Prop where
  /-- It stands behind the resources in front. -/
  splits : ∃ back, resources = front ++ attempt.resource :: back
  /-- The failures of these are contained. -/
  contained : ∀ earlier ∈ attempts options compiled disk front, earlier.Contained
  /-- It is attempted on the disk that they leave. -/
  before : attempt.before = diskBehind disk (attempts options compiled disk front)
  /-- This is its attempt. -/
  run : attempt.run = reconcileResource attempt.before options compiled attempt.resource
  /-- It fails. -/
  fails : attempt.run.result = .error cause
  /-- The failure is not contained. -/
  escapes : ¬cause.IsContained

variable {log : Log} {options : Options} {compiled : Option Path} {progress : Progress}
  {disk : Disk} {resource : Text} {resources front back : List Text} {cause : Failure}

/-- The disk behind attempts is the one behind the later ones, done on the one behind the earlier.
-/
theorem diskBehind_append (disk : Disk) (earlier later : List Attempt) :
    diskBehind disk (earlier ++ later) = diskBehind (diskBehind disk earlier) later := by
  induction earlier generalizing disk with
  | nil => rfl
  | cons attempt earlier ih => exact ih attempt.run.disk

theorem failing_append (earlier later : List Attempt) :
    failing (earlier ++ later) = failing earlier ++ failing later := by
  rw [failing, List.filter_append, List.map_append, failing, failing]

theorem behind_append (progress : Progress) (log : Log) (earlier later : List Attempt) :
    progress.behind log (earlier ++ later) =
      (progress.behind log earlier).behind log later := by
  simp only [Progress.behind, List.filterMap_append, List.flatten_append, List.flatMap_append,
    diskBehind_append, failing_append, List.length_append, List.append_assoc, Nat.add_assoc]

/-! ## One resource -/

/-- A resource whose failure is contained, if it fails at all, adds its lines and leaves its
disk. -/
theorem processResource_of_contained (log : Log)
    (hc : Attempt.Contained ⟨resource, progress.disk,
      reconcileResource progress.disk options compiled resource⟩) :
    processResource log options compiled progress resource =
      (progress.behind log (attempts options compiled progress.disk [resource]), none) := by
  unfold processResource
  cases hr : (reconcileResource progress.disk options compiled resource).result with
  | ok outcome =>
    simp [attempts, Progress.behind, failing, diskBehind, Attempt.failure?, Attempt.line?,
      Attempt.diagnostics, hr]
  | error cause =>
    have hcause : (cause.isReport || cause.isRefusal) = true := hc cause hr
    simp [attempts, Progress.behind, failing, diskBehind, Attempt.failure?, Attempt.line?,
      Attempt.diagnostics, hr, hcause]

/-- A failure that is not contained is handed on. -/
theorem processResource_of_escape (log : Log)
    (hr : (reconcileResource progress.disk options compiled resource).result = .error cause)
    (hc : ¬cause.IsContained) :
    ∃ after, processResource log options compiled progress resource = (after, some cause) ∧
      after.disk = (reconcileResource progress.disk options compiled resource).disk := by
  unfold Failure.IsContained at hc
  simp [processResource, hr, hc]

/-! ## All resources -/

/-- Every resource is attempted. -/
theorem map_resource_attempts (disk : Disk) (resources : List Text) :
    (attempts options compiled disk resources).map Attempt.resource = resources := by
  induction resources generalizing disk with
  | nil => rfl
  | cons resource resources ih => rw [attempts, List.map_cons, ih]

/-- Each attempt is made on the disk that the one before it leaves. -/
theorem run_of_mem_attempts {attempt : Attempt}
    (ha : attempt ∈ attempts options compiled disk resources) :
    attempt.run = reconcileResource attempt.before options compiled attempt.resource := by
  induction resources generalizing disk with
  | nil => cases ha
  | cons resource resources ih =>
    rw [attempts] at ha
    rcases List.mem_cons.mp ha with rfl | ha
    · rfl
    · exact ih ha

/-- The program goes on behind resources whose failures are contained. -/
theorem processAll_append (log : Log)
    (hc : ∀ attempt ∈ attempts options compiled progress.disk front, attempt.Contained)
    (back : List Text) :
    processAll log options compiled progress (front ++ back) =
      processAll log options compiled
        (progress.behind log (attempts options compiled progress.disk front)) back := by
  induction front generalizing progress with
  | nil => simp [attempts, Progress.behind, failing, diskBehind]
  | cons resource front ih =>
    obtain ⟨hfirst, hlater⟩ := List.forall_mem_cons.mp hc
    rw [List.cons_append, processAll, processResource_of_contained log hfirst]
    dsimp only
    rw [ih hlater, ← behind_append]
    rfl

/-- The program looks after all resources if all failures are contained. -/
theorem processAll_of_contained (log : Log) (progress : Progress)
    (hc : ∀ attempt ∈ attempts options compiled progress.disk resources, attempt.Contained) :
    processAll log options compiled progress resources =
      (progress.behind log (attempts options compiled progress.disk resources), none) := by
  have hall := processAll_append log hc []
  rw [List.append_nil] at hall
  rw [hall, processAll]

/-- The first failure that is not contained is handed on. -/
theorem processAll_of_endsAt (log : Log) (progress : Progress) {attempt : Attempt}
    (he : EndsAt options compiled progress.disk resources front attempt cause) :
    ∃ after, processAll log options compiled progress resources = (after, some cause) ∧
      after.disk = attempt.run.disk := by
  obtain ⟨back, rfl⟩ := he.splits
  let behind := progress.behind log (attempts options compiled progress.disk front)
  have hrun : reconcileResource behind.disk options compiled attempt.resource = attempt.run := by
    rw [he.run, he.before]
    rfl
  obtain ⟨after, hone, hdisk⟩ := processResource_of_escape log (hrun ▸ he.fails) he.escapes
  refine ⟨after, ?_, hrun ▸ hdisk⟩
  rw [processAll_append log he.contained, processAll, hone]

/-- An attempt is contained, or fails over what is not. -/
theorem Attempt.contained_or_escapes (attempt : Attempt) :
    attempt.Contained ∨ ∃ cause, attempt.run.result = .error cause ∧ ¬cause.IsContained := by
  unfold Contained
  cases attempt.run.result with
  | ok outcome => exact Or.inl fun cause hr => nomatch hr
  | error cause =>
    by_cases hc : cause.IsContained
    · exact Or.inl fun other hr => Except.error.inj hr ▸ hc
    · exact Or.inr ⟨cause, rfl, hc⟩

/-- Either all failures are contained, or the program ends at a resource. -/
theorem contained_or_endsAt (options : Options) (compiled : Option Path) (disk : Disk)
    (resources : List Text) :
    (∀ attempt ∈ attempts options compiled disk resources, attempt.Contained) ∨
    ∃ front attempt cause, EndsAt options compiled disk resources front attempt cause := by
  induction resources generalizing disk with
  | nil => exact Or.inl fun attempt ha => absurd ha List.not_mem_nil
  | cons resource resources ih =>
    let first : Attempt := ⟨resource, disk, reconcileResource disk options compiled resource⟩
    rcases first.contained_or_escapes with hfirst | ⟨cause, hr, hc⟩
    · rcases ih first.run.disk with hall | ⟨front, attempt, cause, he⟩
      · exact Or.inl (List.forall_mem_cons.mpr ⟨hfirst, hall⟩)
      · obtain ⟨back, hback⟩ := he.splits
        exact Or.inr ⟨resource :: front, attempt, cause,
          { splits := ⟨back, congrArg (resource :: ·) hback⟩
            contained := List.forall_mem_cons.mpr ⟨hfirst, he.contained⟩
            before := he.before
            run := he.run
            fails := he.fails
            escapes := he.escapes }⟩
    · exact Or.inr ⟨[], first, cause,
        { splits := ⟨resources, rfl⟩
          contained := fun attempt ha => absurd ha List.not_mem_nil
          before := rfl
          run := rfl
          fails := hr
          escapes := hc }⟩

/-! ## The whole program -/

variable {environment : Environment} {config : Config} {path : Path} {job : Job}
  {namedExports verbose quiet : Bool} {texts : List Text}

/-- What is printed last about a job. -/
def closing (job : Job) (tries : List Attempt) : Text :=
  if failing tries = [] then [] else failuresLine job (failing tries).length

/-- The end of a program that attempted all resources. -/
def finishBehind (log : Log) (job : Job) (disk : Disk) (tries : List Attempt) : Finish where
  exit := .ok (if failing tries = [] then 0 else 1)
  stdout := (tries.filterMap Attempt.line?).flatten
  stderr := tries.flatMap (Attempt.diagnostics log) ++ closing job tries
  disk := diskBehind disk tries
  log := some log

/-- One compiled module is given for several resources. -/
def SeveralCompiled (compiled : Option Path) (resources : List Text) : Prop :=
  compiled.isSome = true ∧ 1 < resources.length

/-- The flag that is tested says that there are several resources for one compiled module. -/
theorem severalCompiled_iff : (compiled.isSome && decide (1 < resources.length)) = true ↔
    SeveralCompiled compiled resources := by
  rw [Bool.and_eq_true, decide_eq_true_eq, SeveralCompiled]

/-- One compiled module for several resources is refused. -/
theorem runJob_of_severalCompiled (log : Log) (hs : SeveralCompiled compiled resources) :
    runJob environment disk log path job resources compiled namedExports =
      { exit := .ok 1, stdout := [], stderr := compiledComplaint, disk, log := some log } := by
  rw [runJob, if_pos (severalCompiled_iff.mpr hs)]
  rfl

/-- A configuration that cannot be loaded ends the program: with its message if the failure is a
report, else with the failure itself. -/
theorem runJob_of_config_error (log : Log) (hs : ¬SeveralCompiled compiled resources)
    (hl : Config.load environment disk path = .error cause) :
    runJob environment disk log path job resources compiled namedExports =
      if cause.isReport then
        { exit := .ok 1, stdout := [], stderr := cause.message ++ ['\n'], disk, log := some log }
      else { exit := .error cause, stdout := [], stderr := [], disk, log := some log } := by
  have hb := mt severalCompiled_iff.mp hs
  rw [runJob, if_neg hb, hl]
  rfl

/-- With all failures contained, all is read off the attempts. -/
theorem runJob_of_contained (log : Log) (hs : ¬SeveralCompiled compiled resources)
    (hl : Config.load environment disk path = .ok config)
    (hc : ∀ attempt ∈ attempts (optionsFor job namedExports config.options) compiled disk
      resources, attempt.Contained) :
    runJob environment disk log path job resources compiled namedExports =
      finishBehind log job disk
        (attempts (optionsFor job namedExports config.options) compiled disk resources) := by
  have hb := mt severalCompiled_iff.mp hs
  have hall := processAll_of_contained log ⟨[], [], disk, 0⟩ hc
  rw [runJob, if_neg hb, hl]
  simp only [hall, Progress.behind, Nat.zero_add, List.nil_append, List.length_eq_zero_iff,
    finishBehind, closing]
  split
  · simp only [List.append_nil]
  · rfl

/-- The first failure that is not contained ends the program. -/
theorem runJob_of_endsAt (log : Log) (hs : ¬SeveralCompiled compiled resources)
    (hl : Config.load environment disk path = .ok config) {attempt : Attempt}
    (he : EndsAt (optionsFor job namedExports config.options) compiled disk resources front attempt
      cause) :
    let finish := runJob environment disk log path job resources compiled namedExports
    finish.exit = .error cause ∧ finish.disk = attempt.run.disk := by
  intro finish
  have hb := mt severalCompiled_iff.mp hs
  obtain ⟨after, hall, hdisk⟩ := processAll_of_endsAt log ⟨[], [], disk, 0⟩ he
  have hfinish : finish = ⟨.error cause, after.stdout, after.stderr ++ [], after.disk, some log,
      none⟩ := by
    simp only [finish, runJob, if_neg hb, hl, hall]
  rw [hfinish]
  exact ⟨rfl, hdisk⟩

/-- A command line that is read is run as the job it names. -/
theorem run_of_read (hr : Arguments.read texts =
    .ok ⟨verbose, quiet, path, .reconcile job resources compiled namedExports⟩) :
    run environment disk texts = runJob environment disk (Log.forConsole verbose quiet) path job
      resources compiled namedExports := by
  rw [run, hr]
  rfl

end CommandLine

end StyleTypings
