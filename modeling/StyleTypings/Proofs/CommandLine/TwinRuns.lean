import StyleTypings.CommandLine.Surroundings
import StyleTypings.Proofs.CommandLine.Batch
import StyleTypings.Proofs.Disk.Twins
import StyleTypings.Proofs.Reconcile.Readings

/-!
# Runs on two disks that differ in one file

Let two disks differ in one file, and let the paths of the compiled modules and the declarations not
come upon the difference. Then a plan, a request, a resource and at last all resources are looked
after alike on both: every step tells the same, and it leaves disks that differ in that one file as
before. So a run with given options tells nothing about a file that it neither reads nor writes.
-/

namespace StyleTypings

variable {α : Type} {place : Place} {held other : Option Entry} {paths : List Path}
  {first second : Disk} {plan : Plan} {request : Request} {faults : Faults} {path : Path}

/-- Two computations tell the same, and the disks they leave are twins. -/
structure SameRun (place : Place) (held other : Option Entry) (paths : List Path)
    (run otherRun : Run α) : Prop where
  /-- They come to the same result. -/
  result : otherRun.result = run.result
  /-- They attempt the same accesses. -/
  accesses : otherRun.accesses = run.accesses
  /-- They make the same remarks. -/
  notes : otherRun.notes = run.notes
  /-- The disks that they leave are twins. -/
  twins : Disk.Twins place held other paths run.disk otherRun.disk

/-- Computations that differ in the disk they leave only tell the same if these are twins. -/
theorem SameRun.of_twins {result : Except Failure α} {accesses : List Access} {notes : List Note}
    (ht : Disk.Twins place held other paths first second) :
    SameRun place held other paths ⟨result, first, accesses, notes⟩
      ⟨result, second, accesses, notes⟩ :=
  { result := rfl, accesses := rfl, notes := rfl, twins := ht }

/-! ## One plan -/

/-- Twins have the same declaration on a path of theirs. -/
theorem readDeclaration_of_twins (ht : Disk.Twins place held other paths first second)
    (hp : path ∈ paths) :
    readDeclaration second faults path = readDeclaration first faults path := by
  rw [readDeclaration, readDeclaration, ht.read_eq hp]

namespace Plan

/-- Checking tells the same. -/
theorem verify_of_twins (ht : Disk.Twins place held other paths first second)
    (hp : plan.declaration ∈ paths) :
    SameRun place held other paths (plan.verify first faults) (plan.verify second faults) := by
  have hr : readDeclaration second faults plan.declaration =
      readDeclaration first faults plan.declaration := readDeclaration_of_twins ht hp
  unfold verify
  rw [hr]
  split
  · split
    · exact .of_twins ht
    · exact .of_twins ht
  · exact .of_twins ht
  · split
    · exact .of_twins ht
    · exact .of_twins ht

/-- A declaration is replaced on both disks, or on neither for the same reason. -/
theorem replace_of_twins (ht : Disk.Twins place held other paths first second)
    (hp : plan.declaration ∈ paths) (notes : List Note) :
    SameRun place held other paths (plan.replace first faults notes)
      (plan.replace second faults notes) := by
  unfold replace writeDeclaration
  cases faults.write with
  | some fault => exact .of_twins ht
  | none =>
    cases Utf8.encode plan.expected with
    | ok bytes =>
      rcases ht.write_cases hp bytes with ⟨fault, hf, hs⟩ | ⟨after, otherAfter, hf, hs, hafter⟩
      · simp only [hf, hs]
        exact .of_twins ht
      · simp only [hf, hs]
        exact .of_twins hafter
    | error run =>
      rcases ht.write_cases hp [] with ⟨fault, hf, hs⟩ | ⟨after, otherAfter, hf, hs, hafter⟩
      · simp only [hf, hs]
        exact .of_twins ht
      · simp only [hf, hs]
        exact .of_twins hafter

/-- Emitting tells the same. -/
theorem emit_of_twins (ht : Disk.Twins place held other paths first second)
    (hp : plan.declaration ∈ paths) :
    SameRun place held other paths (plan.emit first faults) (plan.emit second faults) := by
  have hr : readDeclaration second faults plan.declaration =
      readDeclaration first faults plan.declaration := readDeclaration_of_twins ht hp
  unfold emit
  rw [hr]
  split
  · split
    · exact replace_of_twins ht hp _
    · exact .of_twins ht
  · split
    · exact .of_twins ht
    · exact replace_of_twins ht hp _

/-- A plan for a declaration on such a path runs alike on both twins. -/
theorem carryOut_of_twins (ht : Disk.Twins place held other paths first second)
    (hp : plan.declaration ∈ paths) :
    SameRun place held other paths (plan.carryOut first faults) (plan.carryOut second faults) := by
  unfold carryOut
  cases plan.mode with
  | verify => exact verify_of_twins ht hp
  | emit => exact emit_of_twins ht hp

end Plan

/-! ## One resource -/

/-- A request tells the same if its declaration is followed alike. -/
theorem reconcile_of_twins (ht : Disk.Twins place held other paths first second)
    (hp : ∀ path, (Path.ofText request.resource).declaration? = some path → path ∈ paths) :
    SameRun place held other paths (reconcile first request) (reconcile second request) := by
  cases hplan : request.plan with
  | error cause =>
    rw [reconcile_of_plan_error first hplan, reconcile_of_plan_error second hplan]
    exact .of_twins ht
  | ok plan =>
    have hmem : plan.declaration ∈ paths := hp _ (Request.plan_eq_ok_iff.mp hplan).2.1
    have hcarried : SameRun place held other paths (plan.carryOut first request.faults)
      (plan.carryOut second request.faults) := Plan.carryOut_of_twins ht hmem
    simp only [reconcile, hplan]
    exact { result := by rw [hcarried.result]
            accesses := hcarried.accesses
            notes := by rw [hcarried.notes]
            twins := hcarried.twins }

namespace CommandLine

variable {options : Options} {compiled : Option Path} {resource : Text} {resources : List Text}
  {progress otherProgress : Progress}

/-- Twins have the same text on a path of theirs. -/
theorem readText_of_twins (ht : Disk.Twins place held other paths first second)
    (hp : path ∈ paths) : Config.readText second path = Config.readText first path := by
  rw [Config.readText, Config.readText, ht.read_eq hp]

/-- A resource is looked after alike if its paths are followed alike. -/
theorem reconcileResource_of_twins (options : Options)
    (ht : Disk.Twins place held other paths first second)
    (hp : ∀ path ∈ resourcePaths compiled resource, path ∈ paths) :
    SameRun place held other paths (reconcileResource first options compiled resource)
      (reconcileResource second options compiled resource) := by
  have hmodule : compiledPath compiled resource ∈ paths := hp _ List.mem_cons_self
  unfold reconcileResource
  rw [readText_of_twins ht hmodule]
  cases Config.readText first (compiledPath compiled resource) with
  | error cause => exact .of_twins ht
  | ok content =>
    refine reconcile_of_twins ht fun path hd => hp path ?_
    exact List.mem_cons_of_mem _ (Option.mem_toList.mpr hd)

/-! ## What is printed -/

/-- What an outlet puts on the console does not depend on the disk. -/
theorem put_fst (time : Text) (record : Record) (outlet : Outlet) (shown : Text)
    (first second : Disk) :
    (Outlet.put time record (shown, second) outlet).1 =
      (Outlet.put time record (shown, first) outlet).1 := by
  unfold Outlet.put
  split
  · cases outlet.sink with
    | console => rfl
    | file place => cases Utf8.encode (record.fileLine time) <;> rfl
  · rfl

/-- What outlets show does not depend on the disk. -/
theorem foldl_put_fst (time : Text) (record : Record) (outlets : List Outlet) (shown : Text)
    (first second : Disk) :
    (outlets.foldl (Outlet.put time record) (shown, second)).1 =
      (outlets.foldl (Outlet.put time record) (shown, first)).1 := by
  induction outlets generalizing shown first second with
  | nil => rfl
  | cons outlet outlets ih =>
    have hone := put_fst time record outlet shown first second
    rw [List.foldl_cons, List.foldl_cons]
    generalize Outlet.put time record (shown, second) outlet = put at hone ⊢
    obtain ⟨text, disk⟩ := put
    rw [show text = _ from hone]
    exact ih _ _ _

/-- So a record appears on the console in the same words, or cannot be written on either disk. -/
theorem write_map_fst (log : Log) (first second : Disk) (time : Text) (part : Option Text)
    (level : Level) (message : Text) :
    (log.write second time part level message).map Prod.fst =
      (log.write first time part level message).map Prod.fst := by
  have hput : ∀ record,
      (log.put second time part record).1 = (log.put first time part record).1 := by
    intro record
    unfold Log.put
    split
    · exact foldl_put_fst time record log.outlets [] first second
    · rfl
  unfold Log.write
  split
  · rfl
  · split
    · exact congrArg Except.ok (hput _)
    · rfl

/-- Nor do notes. -/
theorem notesText_eq (log : Log) (first second : Disk) (notes : List Note) :
    notesText log second notes = notesText log first notes := by
  unfold notesText
  refine congrArg (notes.flatMap ·) (funext fun note => ?_)
  have hw := write_map_fst log first second [] (some reconcilerPart) .debug note.message
  generalize log.write first [] (some reconcilerPart) .debug note.message = found at hw ⊢
  generalize log.write second [] (some reconcilerPart) .debug note.message = other at hw ⊢
  cases found <;> cases other <;> simp_all [Except.map]

/-- The line of a success is the same for disks that differ in one file. -/
theorem successLine_eq (hd : Disk.DifferAt place first second) (outcome : Outcome) :
    successLine second outcome = successLine first outcome := by
  unfold successLine shownPath
  rw [hd.resolve_eq, hd.working]

/-! ## All resources -/

/-- The same was printed, and the disks are twins. -/
structure SameProgress (place : Place) (held other : Option Entry) (paths : List Path)
    (progress otherProgress : Progress) : Prop where
  /-- The standard output is the same. -/
  stdout : otherProgress.stdout = progress.stdout
  /-- So is the standard error output. -/
  stderr : otherProgress.stderr = progress.stderr
  /-- As many resources failed. -/
  failures : otherProgress.failures = progress.failures
  /-- The disks are twins. -/
  twins : Disk.Twins place held other paths progress.disk otherProgress.disk

/-- Looking after one resource takes the same progress further alike. -/
theorem processResource_of_twins (log : Log) (options : Options)
    (hs : SameProgress place held other paths progress otherProgress)
    (hp : ∀ path ∈ resourcePaths compiled resource, path ∈ paths) :
    SameProgress place held other paths
      (processResource log options compiled progress resource).1
      (processResource log options compiled otherProgress resource).1 ∧
    (processResource log options compiled otherProgress resource).2 =
      (processResource log options compiled progress resource).2 := by
  have hrun := reconcileResource_of_twins options hs.twins hp
  have hprinted : ∀ disk otherDisk : Disk, ∀ notes,
      otherProgress.stderr ++ notesText log otherDisk notes =
        progress.stderr ++ notesText log disk notes := by
    intro disk otherDisk notes
    rw [hs.stderr, notesText_eq log disk otherDisk]
  unfold processResource
  dsimp only
  rw [hrun.result, hrun.notes, hprinted (reconcileResource progress.disk options compiled
    resource).disk]
  cases (reconcileResource progress.disk options compiled resource).result with
  | ok outcome =>
    dsimp only
    rw [hs.stdout, successLine_eq hrun.twins.differ]
    exact ⟨{ stdout := rfl, stderr := rfl, failures := hs.failures, twins := hrun.twins }, rfl⟩
  | error cause =>
    dsimp only
    split
    · rw [hs.failures]
      exact ⟨{ stdout := hs.stdout, stderr := rfl, failures := rfl, twins := hrun.twins }, rfl⟩
    · exact ⟨{ stdout := hs.stdout, stderr := rfl, failures := hs.failures,
               twins := hrun.twins }, rfl⟩

/-- So does looking after all of them. -/
theorem processAll_of_twins (log : Log) (options : Options)
    (hs : SameProgress place held other paths progress otherProgress)
    (hp : ∀ path ∈ resources.flatMap (resourcePaths compiled), path ∈ paths) :
    SameProgress place held other paths
      (processAll log options compiled progress resources).1
      (processAll log options compiled otherProgress resources).1 ∧
    (processAll log options compiled otherProgress resources).2 =
      (processAll log options compiled progress resources).2 := by
  induction resources generalizing progress otherProgress with
  | nil => exact ⟨hs, rfl⟩
  | cons resource resources ih =>
    rw [List.flatMap_cons, List.forall_mem_append] at hp
    obtain ⟨hone, hcause⟩ := processResource_of_twins log options hs hp.1
    unfold processAll
    generalize processResource log options compiled progress resource = next at hone hcause ⊢
    generalize processResource log options compiled otherProgress resource = otherNext
      at hone hcause ⊢
    obtain ⟨next, cause⟩ := next
    obtain ⟨otherNext, otherCause⟩ := otherNext
    cases (hcause : otherCause = cause)
    cases cause with
    | some cause => exact ⟨hone, rfl⟩
    | none => exact ih hone hp.2

/-! ## The end of the program -/

/-- The end of a program that looks after resources with given options. -/
def lookAfter (log : Log) (job : Job) (disk : Disk) (options : Options) (compiled : Option Path)
    (resources : List Text) : Finish :=
  let (progress, cause) := processAll log options compiled { disk } resources
  { exit := match cause with
      | some cause => .error cause
      | none => .ok (if progress.failures = 0 then 0 else 1)
    stdout := progress.stdout
    stderr := progress.stderr ++
      (if cause.isSome ∨ progress.failures = 0 then [] else failuresLine job progress.failures)
    disk := progress.disk
    log := some log }

/-- Two runs end alike, and the disks they leave differ as those they found did. -/
structure SameOff (place : Place) (first second : Disk) (finish otherFinish : Finish) : Prop where
  /-- They have the same exit code, or end over the same failure. -/
  exit : otherFinish.exit = finish.exit
  /-- They have the same standard output. -/
  stdout : otherFinish.stdout = finish.stdout
  /-- They have the same standard error output. -/
  stderr : otherFinish.stderr = finish.stderr
  /-- They have configured the logger alike. -/
  log : otherFinish.log = finish.log
  /-- They start the same service, or none. -/
  served : otherFinish.served = finish.served
  /-- The disks that they leave differ at the place only. -/
  files : Disk.DifferAt place finish.disk otherFinish.disk
  /-- There the first holds what it held. -/
  kept : finish.disk.entry? place = first.entry? place
  /-- So does the second. -/
  otherKept : otherFinish.disk.entry? place = second.entry? place

/-- Runs that touch nothing end alike if they tell the same. -/
theorem SameOff.of_untouched {finish : Finish} (hd : Disk.DifferAt place first second)
    (hf : finish.disk = first) : SameOff place first second finish { finish with disk := second } :=
  { exit := rfl, stdout := rfl, stderr := rfl, log := rfl, served := rfl, files := hf ▸ hd,
    kept := hf ▸ rfl, otherKept := rfl }

variable {environment : Environment} {config : Config} {job : Job} {namedExports : Bool}

/-- With a configuration, the program looks after the resources with the options for the job. -/
theorem runJob_of_load (log : Log) (hs : ¬SeveralCompiled compiled resources)
    (hl : Config.load environment first path = .ok config) :
    runJob environment first log path job resources compiled namedExports =
      lookAfter log job first (optionsFor job namedExports config.options) compiled resources := by
  have hb := mt severalCompiled_iff.mp hs
  rw [runJob, if_neg hb, hl]
  dsimp only [lookAfter]
  generalize processAll log (optionsFor job namedExports config.options) compiled { disk := first }
    resources = result
  obtain ⟨progress, cause⟩ := result
  cases cause with
  | some cause => simp
  | none =>
    by_cases hf : progress.failures = 0
    · simp [hf]
    · simp [hf]

/-- Resources are looked after alike on two disks that differ in a file that is neither read nor
written. -/
theorem lookAfter_of_unseen (log : Log) (job : Job) (options : Options)
    (hd : Disk.DifferAt place first second)
    (hu : ∀ path ∈ resources.flatMap (resourcePaths compiled),
      Disk.Unseen place first second path) :
    SameOff place first second (lookAfter log job first options compiled resources)
      (lookAfter log job second options compiled resources) := by
  have ht : Disk.Twins place (first.entry? place) (second.entry? place)
      (resources.flatMap (resourcePaths compiled)) first second :=
    { differ := hd, holds := rfl, otherHolds := rfl, unseen := hu }
  have hstart : SameProgress place (first.entry? place) (second.entry? place)
      (resources.flatMap (resourcePaths compiled)) { disk := first } { disk := second } :=
    { stdout := rfl, stderr := rfl, failures := rfl, twins := ht }
  obtain ⟨hall, hcause⟩ := processAll_of_twins log options hstart fun _ hp => hp
  refine { exit := ?_, stdout := hall.stdout, stderr := ?_, log := rfl, served := rfl,
           files := hall.twins.differ, kept := hall.twins.holds,
           otherKept := hall.twins.otherHolds }
  · simp only [lookAfter, hcause, hall.failures]
  · simp only [lookAfter, hcause, hall.failures, hall.stderr]

end CommandLine

end StyleTypings
