import StyleTypings.Proofs.CommandLine.TwinRuns

/-!
# Modes that are none

A mode that is none of the two is found out with each resource, behind its compiled module and in
front of its declaration. So every resource fails, no declaration is opened and nothing is written.
Where the compiled modules can be read, each resource is reported for its mode.
-/

namespace StyleTypings

/-- The word is the name of no mode. -/
def NamesNoMode (word : Text) : Prop := ∀ mode : Mode, word ≠ mode.text

theorem NamesNoMode.ofText? {word : Text} (hn : NamesNoMode word) : Mode.ofText? word = none := by
  cases hm : Mode.ofText? word with
  | none => rfl
  | some mode => exact absurd (Mode.ofText?_eq_some_iff.mp hm) (hn mode)

namespace CommandLine

variable {log : Log} {options : Options} {compiled : Option Path} {progress : Progress}
  {disk : Disk} {job : Job} {mode resource : Text} {resources front back : List Text}
  {finish : Finish}

/-- What a resource fails over where the mode is none: its compiled module, if that cannot be read,
and else the mode. -/
def modeFailure (disk : Disk) (mode : Text) (compiled : Option Path) (resource : Text) : Failure :=
  match Config.readText disk (compiledPath compiled resource) with
  | .error cause => cause
  | .ok _ => .invalidMode mode

/-- The program fails over every resource of a run whose mode is none. -/
structure FailsOverMode (log : Log) (job : Job) (disk : Disk) (options : Options)
    (compiled : Option Path) (resources : List Text) (finish : Finish) : Prop where
  /-- Each resource fails, opens no declaration and leaves the disk as it was. -/
  fails : ∀ attempt ∈ attempts options compiled disk resources, attempt.run =
    ⟨.error (modeFailure disk options.mode compiled attempt.resource), disk, [], []⟩
  /-- Nothing is printed about success. -/
  stdout : finish.stdout = []
  /-- No file is changed. -/
  unchanged : finish.disk = disk
  /-- The program does not succeed. -/
  exit : finish.exit ≠ .ok 0
  /-- If all failures are contained, all are reported and counted. -/
  reported : (∀ resource ∈ resources,
      (modeFailure disk options.mode compiled resource).IsContained) →
    finish.exit = .ok 1 ∧ finish.stderr =
      resources.flatMap (fun resource =>
        failureLine resource (modeFailure disk options.mode compiled resource)) ++
      failuresLine job resources.length
  /-- Each is reported for the mode if its compiled module can be read. -/
  readable : ∀ resource ∈ resources, ∀ content,
    Config.readText disk (compiledPath compiled resource) = .ok content →
    modeFailure disk options.mode compiled resource = .invalidMode options.mode

/-- With a compiled module that can be read, the failure is about the mode. -/
theorem modeFailure_of_readText {content : Text}
    (hc : Config.readText disk (compiledPath compiled resource) = .ok content) (mode : Text) :
    modeFailure disk mode compiled resource = .invalidMode mode := by
  rw [modeFailure, hc]

/-! ## One resource -/

/-- A resource with an unknown mode fails before anything is touched. -/
theorem reconcileResource_of_noMode (hn : NamesNoMode options.mode) (disk : Disk)
    (compiled : Option Path) (resource : Text) :
    reconcileResource disk options compiled resource =
      ⟨.error (modeFailure disk options.mode compiled resource), disk, [], []⟩ := by
  unfold reconcileResource modeFailure
  cases Config.readText disk (compiledPath compiled resource) with
  | error cause => rfl
  | ok content =>
    have hplan : Request.plan { content, resource, options } =
        .error (.invalidMode options.mode) := by
      simp only [Request.plan, hn.ofText?]
    exact reconcile_of_plan_error disk hplan

/-- The failure is reported, or it ends the program. Nothing else happens. -/
theorem processResource_of_noMode (log : Log) (hn : NamesNoMode options.mode)
    (compiled : Option Path) (progress : Progress) (resource : Text) :
    processResource log options compiled progress resource =
      if (modeFailure progress.disk options.mode compiled resource).IsContained then
        ({ progress with
            stderr := progress.stderr ++ failureLine resource
              (modeFailure progress.disk options.mode compiled resource)
            failures := progress.failures + 1 }, none)
      else (progress, some (modeFailure progress.disk options.mode compiled resource)) := by
  have hnotes : notesText log progress.disk [] = [] := rfl
  unfold processResource
  rw [reconcileResource_of_noMode hn]
  dsimp only
  rw [hnotes, List.append_nil]
  rfl

/-! ## All resources -/

/-- All resources with an unknown mode fail so. -/
theorem attempts_of_noMode (hn : NamesNoMode options.mode) (disk : Disk) (compiled : Option Path)
    (resources : List Text) :
    attempts options compiled disk resources = resources.map fun resource =>
      ⟨resource, disk,
        ⟨.error (modeFailure disk options.mode compiled resource), disk, [], []⟩⟩ := by
  induction resources with
  | nil => rfl
  | cons resource resources ih =>
    rw [attempts, reconcileResource_of_noMode hn, List.map_cons]
    dsimp only
    rw [ih]

/-- Resources that fail leave the standard output and the disk as they were. If the program comes to
the end of them, it has reported and counted every one. -/
theorem processAll_of_noMode (log : Log) (hn : NamesNoMode options.mode) (compiled : Option Path)
    (progress : Progress) (resources : List Text) :
    (processAll log options compiled progress resources).1.stdout = progress.stdout ∧
    (processAll log options compiled progress resources).1.disk = progress.disk ∧
    ((processAll log options compiled progress resources).2 = none →
      (processAll log options compiled progress resources).1.failures =
        progress.failures + resources.length ∧
      (processAll log options compiled progress resources).1.stderr =
        progress.stderr ++ resources.flatMap fun resource =>
          failureLine resource (modeFailure progress.disk options.mode compiled resource)) := by
  induction resources generalizing progress with
  | nil => simp [processAll]
  | cons resource resources ih =>
    rw [processAll, processResource_of_noMode log hn]
    by_cases hc : (modeFailure progress.disk options.mode compiled resource).IsContained
    · rw [if_pos hc]
      obtain ⟨hstdout, hdisk, hend⟩ := ih { progress with
        stderr := progress.stderr ++ failureLine resource
          (modeFailure progress.disk options.mode compiled resource)
        failures := progress.failures + 1 }
      refine ⟨hstdout, hdisk, fun hnone => ?_⟩
      obtain ⟨hfailures, hstderr⟩ := hend hnone
      have hcount : progress.failures + 1 + resources.length =
          progress.failures + (resource :: resources).length := by
        rw [List.length_cons]
        omega
      refine ⟨hfailures.trans hcount, hstderr.trans ?_⟩
      rw [List.flatMap_cons, List.append_assoc]
    · rw [if_neg hc]
      refine ⟨rfl, rfl, fun hnone => ?_⟩
      cases hnone

/-- It comes to the end of them if all failures are contained. -/
theorem processAll_of_contained_modeFailure (log : Log) (hn : NamesNoMode options.mode)
    (hc : ∀ resource ∈ resources,
      (modeFailure progress.disk options.mode compiled resource).IsContained) :
    (processAll log options compiled progress resources).2 = none := by
  have hcontained : ∀ attempt ∈ attempts options compiled progress.disk resources,
      attempt.Contained := by
    intro attempt ha cause hcause
    rw [attempts_of_noMode hn] at ha
    obtain ⟨resource, hmem, rfl⟩ := List.mem_map.mp ha
    cases hcause
    exact hc resource hmem
  rw [processAll_of_contained log progress hcontained]

/-- Looking after resources with a mode that is none fails over every one of them. -/
theorem lookAfter_of_noMode (log : Log) (job : Job) (disk : Disk) (hn : NamesNoMode options.mode)
    (compiled : Option Path) (hr : resources ≠ []) :
    FailsOverMode log job disk options compiled resources
      (lookAfter log job disk options compiled resources) := by
  have hlength : resources.length ≠ 0 := fun hl => hr (List.length_eq_zero_iff.mp hl)
  have hattempts := attempts_of_noMode hn disk compiled resources
  obtain ⟨hstdout, hdisk, hend⟩ := processAll_of_noMode log hn compiled { disk } resources
  refine { fails := ?_, stdout := hstdout, unchanged := hdisk, exit := ?_, reported := ?_,
           readable := fun _ _ _ hcontent => modeFailure_of_readText hcontent _ }
  · intro attempt ha
    rw [hattempts] at ha
    obtain ⟨resource, -, rfl⟩ := List.mem_map.mp ha
    rfl
  · intro hexit
    cases hcause : (processAll log options compiled { disk } resources).2 with
    | some cause => simp [lookAfter, hcause] at hexit
    | none =>
      obtain ⟨hfailures, -⟩ := hend hcause
      simp [lookAfter, hcause, hfailures, hr] at hexit
  · intro hc
    have hnone : (processAll log options compiled { disk } resources).2 = none :=
      processAll_of_contained_modeFailure log hn hc
    obtain ⟨hfailures, hstderr⟩ := hend hnone
    rw [Nat.zero_add] at hfailures
    constructor
    · simp [lookAfter, hnone, hfailures, hr]
    · simp [lookAfter, hnone, hfailures, hstderr, hr]

end CommandLine

end StyleTypings
