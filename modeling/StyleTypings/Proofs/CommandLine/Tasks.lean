import StyleTypings.Proofs.CommandLine.Operands
import StyleTypings.Proofs.CommandLine.TwinRuns
import StyleTypings.Proofs.Options.ModeSources

/-!
# Tasks and their options

Arguments that are accepted and ask for a job set a task. Without one, and with one that is refused,
a run looks neither at the environment nor at the disk. A task looks after its resources with
options that are told by three sources: the mode by the job, and where the job leaves it open by the
environment or the configuration, the export choice by the arguments or the configuration.
-/

namespace StyleTypings.CommandLine

/-- What the arguments of a job ask for. -/
structure Task where
  /-- The logger. -/
  log : Log
  /-- The path of the configuration. -/
  config : Path
  /-- The job. -/
  job : Job
  /-- The resources. -/
  resources : List Text
  /-- The compiled module, if it is named. -/
  compiled : Option Path
  /-- Whether the export choice is made by the arguments. -/
  namedExports : Bool

namespace Task

/-- What arguments ask for, if they are accepted and ask for a job. -/
def ofTexts? (texts : List Text) : Option Task :=
  match Arguments.read texts with
  | .ok ⟨verbose, quiet, config, .reconcile job resources compiled namedExports⟩ =>
    some ⟨.forConsole verbose quiet, config, job, resources, compiled, namedExports⟩
  | _ => none

/-- The mode of a task: the one that its job names, or the effective one where it names none. -/
def mode (task : Task) (environment : Environment) (entries : List (Value × Value)) : Text :=
  match task.job with
  | .emit => Mode.emit.text
  | .verify => Mode.verify.text
  | .reconcile => Config.effectiveMode environment entries

/-- One compiled module is named for several resources. -/
def IsRefused (task : Task) : Prop := SeveralCompiled task.compiled task.resources

/-- The paths that looking after the resources may follow. -/
def paths (task : Task) : List Path := task.resources.flatMap (resourcePaths task.compiled)

/-- The configuration of a task is found under its names, and the entries are read from it. -/
structure Reads (task : Task) (environment : Environment) (disk : Disk) (names : List Text)
    (entries : List (Value × Value)) : Prop where
  /-- The names. -/
  found : Config.locate environment disk task.config = .ok names
  /-- The entries. -/
  read : Config.readEntries disk names = .ok entries

end Task

variable {texts : List Text} {task : Task} {environment : Environment} {disk : Disk}
  {names : List Text} {entries : List (Value × Value)}

/-! ## Runs with a task and without -/

theorem run_of_task (ht : Task.ofTexts? texts = some task) (environment : Environment)
    (disk : Disk) : run environment disk texts = runJob environment disk task.log task.config
      task.job task.resources task.compiled task.namedExports := by
  unfold Task.ofTexts? at ht
  split at ht
  · next hr =>
    cases ht
    exact run_of_read hr
  · cases ht

theorem Task.resources_ne_nil (ht : ofTexts? texts = some task) : task.resources ≠ [] := by
  unfold ofTexts? at ht
  split at ht
  · next hr =>
    cases ht
    exact Arguments.resources_ne_nil hr
  · cases ht

/-- Without a task, a run depends neither on the environment nor on the disk, which it leaves as it
was. -/
theorem run_of_no_task (ht : Task.ofTexts? texts = none) (environment other : Environment)
    (first second : Disk) :
    run other second texts = { run environment first texts with disk := second } ∧
      (run environment first texts).disk = first := by
  unfold run
  cases hr : Arguments.read texts with
  | error stop => cases stop <;> exact ⟨rfl, rfl⟩
  | ok arguments =>
    obtain ⟨verbose, quiet, config, command⟩ := arguments
    cases command with
    | serve host socket => exact ⟨rfl, rfl⟩
    | reconcile job resources compiled namedExports =>
      rw [Task.ofTexts?, hr] at ht
      cases ht

/-- A job that names its mode has it whatever was chosen. -/
theorem Task.mode_eq (hj : task.job ≠ .reconcile) (environment other : Environment)
    (entries others : List (Value × Value)) :
    task.mode other others = task.mode environment entries := by
  unfold mode
  cases hjob : task.job with
  | emit => rfl
  | verify => rfl
  | reconcile => exact absurd hjob hj

/-! ## Options -/

/-- The mode of the environment does not move the configuration. -/
theorem Task.Reads.withMode (hr : task.Reads environment disk names entries)
    (mode : Option Text) : task.Reads { environment with mode } disk names entries :=
  { found := hr.found, read := hr.read }

/-- With a configuration, resources are looked after with the mode of the task and the export choice
of the arguments or the configuration. -/
theorem run_of_reads (ht : Task.ofTexts? texts = some task) (hn : ¬task.IsRefused)
    (hr : task.Reads environment disk names entries)
    (hw : Options.modeWritable (Config.override environment entries) = true) :
    run environment disk texts = lookAfter task.log task.job disk
      ⟨task.mode environment entries, task.namedExports || Options.namedExportsOf entries⟩
      task.compiled task.resources := by
  have hload := Config.load_of_readEntries hr.found hr.read hw
  have hoptions : optionsFor task.job task.namedExports
      ⟨Config.effectiveMode environment entries, Options.namedExportsOf entries⟩ =
      ⟨task.mode environment entries, task.namedExports || Options.namedExportsOf entries⟩ := by
    unfold optionsFor Task.mode
    cases task.job <;> rfl
  rw [run_of_task ht, runJob_of_load task.log hn hload, hoptions]

/-- A run that loads no configuration does not look at the mode of the environment. -/
theorem run_of_unread (ht : Task.ofTexts? texts = some task)
    (hn : ¬task.IsRefused) {cause : Failure}
    (hu : Config.locate environment disk task.config = .error cause ∨
      ∃ names, Config.locate environment disk task.config = .ok names ∧
        Config.readEntries disk names = .error cause) (mode : Option Text) :
    run { environment with mode } disk texts = run environment disk texts := by
  have hload : Config.load environment disk task.config = .error cause := Config.load_of_unread hu
  have hother : Config.load { environment with mode } disk task.config = .error cause :=
    Config.load_of_unread hu
  rw [run_of_task ht, run_of_task ht, runJob_of_config_error task.log hn hload,
    runJob_of_config_error task.log hn hother]

/-- A run with one compiled module for several resources looks neither at the environment nor at
the disk. -/
theorem run_of_refused (ht : Task.ofTexts? texts = some task) (hs : task.IsRefused)
    (environment other : Environment) (first second : Disk) :
    run other second texts = { run environment first texts with disk := second } ∧
      (run environment first texts).disk = first := by
  rw [run_of_task ht, run_of_task ht, runJob_of_severalCompiled task.log hs,
    runJob_of_severalCompiled task.log hs]
  exact ⟨rfl, rfl⟩

/-- A mode that counts and cannot be written out ends the program. -/
theorem run_of_not_writable (ht : Task.ofTexts? texts = some task) (hn : ¬task.IsRefused)
    (hr : task.Reads environment disk names entries)
    (hw : Options.modeWritable (Config.override environment entries) = false) :
    (run environment disk texts).exit = .error (.scalar .notWritable) ∧
      (run environment disk texts).disk = disk := by
  have hload := Config.load_of_not_writable hr.found hr.read hw
  have hreport : (Failure.scalar .notWritable).isReport ≠ true := Bool.false_ne_true
  rw [run_of_task ht, runJob_of_config_error task.log hn hload, if_neg hreport]
  exact ⟨rfl, rfl⟩

end StyleTypings.CommandLine
