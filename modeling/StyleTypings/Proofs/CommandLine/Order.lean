import StyleTypings.Proofs.CommandLine.Alone
import StyleTypings.Proofs.CommandLine.Operands

/-!
# The order of the resources

Where no two resources have their declarations at one place, a run of the program and a run for the
same resources in another order leave the same files and end alike, and the lines about success
stand in the order of the resources. A configuration that cannot be loaded counts as a failure of
every resource, as none of them is looked after. Runs that end with a failure of an unexpected kind
are not spoken of: what is left undone then depends on the order.
-/

namespace StyleTypings.CommandLine

/-- The resources that are not looked after: all of them if the configuration cannot be loaded, else
those whose attempts fail. -/
def failingResources (environment : Environment) (disk : Disk) (path : Path) (job : Job)
    (namedExports : Bool) (resources : List Text) : List Text :=
  match Config.load environment disk path with
  | .error _ => resources
  | .ok config =>
    failing (attempts (optionsFor job namedExports config.options) none disk resources)

variable {environment : Environment} {disk : Disk} {log : Log} {path : Path} {job : Job}
  {namedExports : Bool} {options : Options} {resources permuted : List Text} {config : Config}
  {cause : Failure} {attempt : Attempt} {place : Place}

/-- Without a compiled module there are not several resources for one. -/
theorem not_severalCompiled (resources : List Text) : ¬SeveralCompiled none resources :=
  fun hs => nomatch hs.1

/-! ## Two orders of the same resources -/

/-- Resources that are apart in one order are so in any. -/
theorem Apart.pairwise_perm (hp : resources.Perm permuted) (ha : resources.Pairwise (Apart disk)) :
    permuted.Pairwise (Apart disk) :=
  (hp.pairwise_iff Apart.symm).mp ha

/-- Both orders leave the same at every place. -/
theorem entry?_diskBehind_perm (hp : resources.Perm permuted)
    (ha : resources.Pairwise (Apart disk)) (options : Options) (place : Place) :
    Disk.entry? (diskBehind disk (attempts options none disk permuted)) place =
      Disk.entry? (diskBehind disk (attempts options none disk resources)) place := by
  by_cases hd : SomeDeclaresAt disk resources place
  · obtain ⟨resource, hr, hat⟩ := hd
    have hfirst := (attempts_likeAlone options ha).2 resource hr place hat
    have hsecond := (attempts_likeAlone options (Apart.pairwise_perm hp ha)).2 resource
      (hp.mem_iff.mp hr) place hat
    exact hsecond.trans hfirst.symm
  · have hother : ¬SomeDeclaresAt disk permuted place := by
      rintro ⟨resource, hr, hat⟩
      exact hd ⟨resource, hp.mem_iff.mpr hr, hat⟩
    rw [(keeps_diskBehind disk options none resources).holds hd,
      (keeps_diskBehind disk options none permuted).holds hother]

/-- Attempts that are contained in one order are so in any. -/
theorem contained_perm (hp : resources.Perm permuted) (ha : resources.Pairwise (Apart disk))
    (hc : ∀ attempt ∈ attempts options none disk resources, attempt.Contained) :
    ∀ attempt ∈ attempts options none disk permuted, attempt.Contained := by
  have halone := (contained_iff_alone ha).mp hc
  exact (contained_iff_alone (Apart.pairwise_perm hp ha)).mpr fun resource hr =>
    halone resource (hp.mem_iff.mpr hr)

/-- The same resources fail in any order. -/
theorem failing_perm (hp : resources.Perm permuted) (ha : resources.Pairwise (Apart disk))
    (options : Options) : (failing (attempts options none disk permuted)).Perm
      (failing (attempts options none disk resources)) := by
  rw [failing_attempts ha, failing_attempts (Apart.pairwise_perm hp ha)]
  exact hp.symm.filter _

/-- An attempt that fails leaves the disk as it was. -/
theorem disk_of_failing (ha : attempt ∈ attempts options none disk resources)
    (hf : attempt.failure?.isSome = true) : attempt.run.disk = attempt.before := by
  have hrun := run_of_mem_attempts ha
  unfold Attempt.failure? at hf
  cases hr : attempt.run.result with
  | ok outcome =>
    rw [hr] at hf
    cases hf
  | error cause =>
    rw [hrun] at hr ⊢
    exact disk_of_reconcileResource_error hr

/-! ## Two runs of the program -/

/-- If no failure of another kind ends a run, all its failures are contained. -/
theorem contained_of_runJob (hl : Config.load environment disk path = .ok config)
    (hc : ∀ cause, (runJob environment disk log path job resources none namedExports).exit =
      .error cause → cause.IsContained) :
    ∀ attempt ∈ attempts (optionsFor job namedExports config.options) none disk resources,
      attempt.Contained := by
  rcases contained_or_endsAt (optionsFor job namedExports config.options) none disk resources with
    hall | ⟨front, attempt, cause, he⟩
  · exact hall
  · have hexit := (runJob_of_endsAt log (not_severalCompiled resources) hl he).1
    exact absurd (hc cause hexit) he.escapes

/-- What the end of a run tells of its resources. -/
structure TellsAll (environment : Environment) (disk : Disk) (log : Log) (path : Path) (job : Job)
    (namedExports : Bool) (resources : List Text) (finish : Finish) : Prop where
  /-- An exit code is one exactly if some resource fails. -/
  code : ∀ code, finish.exit = .ok code →
    (code = 1 ↔ failingResources environment disk path job namedExports resources ≠ [])
  /-- With a configuration, all is read off the attempts at all resources. -/
  attempted : ∀ config, Config.load environment disk path = .ok config →
    finish = finishBehind log job disk
      (attempts (optionsFor job namedExports config.options) none disk resources)
  /-- An attempt that fails leaves the disk as it was. -/
  unchanged : ∀ config, Config.load environment disk path = .ok config →
    ∀ attempt ∈ attempts (optionsFor job namedExports config.options) none disk resources,
      attempt.failure?.isSome = true → attempt.run.disk = attempt.before

/-- What the ends of two runs for the same resources in different orders have in common. -/
structure Reordered (environment : Environment) (disk : Disk) (log : Log) (path : Path) (job : Job)
    (namedExports : Bool) (resources permuted : List Text) (first second : Finish) : Prop where
  /-- Every file has the same bytes. -/
  files : ∀ place, second.disk.file? place = first.disk.file? place
  /-- They end alike. -/
  exit : second.exit = first.exit
  /-- They fail over the same resources. -/
  failing : (failingResources environment disk path job namedExports permuted).Perm
    (failingResources environment disk path job namedExports resources)
  /-- The same lines tell of success, in the order of the resources. -/
  lines : ∃ lineOf : Text → Option Text, first.stdout = (resources.filterMap lineOf).flatten ∧
    second.stdout = (permuted.filterMap lineOf).flatten
  /-- The first tells of its resources. -/
  first : TellsAll environment disk log path job namedExports resources first
  /-- So does the second. -/
  second : TellsAll environment disk log path job namedExports permuted second

/-- Without a configuration every resource fails. -/
theorem failingResources_of_config_error (hl : Config.load environment disk path = .error cause)
    (job : Job) (namedExports : Bool) (resources : List Text) :
    failingResources environment disk path job namedExports resources = resources := by
  rw [failingResources, hl]

/-- With a configuration, the failing resources are those of the attempts with its options. -/
theorem failingResources_of_config (hl : Config.load environment disk path = .ok config)
    (job : Job) (namedExports : Bool) (resources : List Text) :
    failingResources environment disk path job namedExports resources =
      failing (attempts (optionsFor job namedExports config.options) none disk resources) := by
  rw [failingResources, hl]

/-- A configuration that is not loaded is told of, and nothing is written. -/
theorem tellsAll_of_config_error (log : Log) (job : Job) (namedExports : Bool)
    (hl : Config.load environment disk path = .error cause) (hn : resources ≠ []) :
    TellsAll environment disk log path job namedExports resources
      (runJob environment disk log path job resources none namedExports) := by
  rw [runJob_of_config_error log (not_severalCompiled resources) hl]
  have hnone : ∀ config, Config.load environment disk path ≠ .ok config :=
    fun config hc => nomatch hl.symm.trans hc
  refine { code := ?_, attempted := fun config hc => absurd hc (hnone config),
           unchanged := fun config hc => absurd hc (hnone config) }
  intro code hcode
  rw [failingResources_of_config_error hl]
  split at hcode
  · cases hcode
    exact iff_of_true rfl hn
  · cases hcode

/-- Contained attempts are told of one by one. -/
theorem tellsAll_of_contained (log : Log) (job : Job) (namedExports : Bool)
    (hl : Config.load environment disk path = .ok config)
    (hc : ∀ attempt ∈ attempts (optionsFor job namedExports config.options) none disk resources,
      attempt.Contained) :
    TellsAll environment disk log path job namedExports resources
      (runJob environment disk log path job resources none namedExports) := by
  rw [runJob_of_contained log (not_severalCompiled resources) hl hc]
  refine { code := ?_, attempted := ?_, unchanged := fun _ _ _ hmem hf => disk_of_failing hmem hf }
  · intro code hcode
    have hvalue : (if failing (attempts (optionsFor job namedExports config.options) none disk
        resources) = [] then 0 else 1) = code := Except.ok.inj hcode
    rw [failingResources_of_config hl, ← hvalue]
    split
    · next hnil => exact iff_of_false (fun h => nomatch h) fun hn => hn hnil
    · next hn => exact iff_of_true rfl hn
  · intro other hother
    cases hl.symm.trans hother
    rfl

/-- Without a configuration no resource is looked after, in either order. -/
theorem reordered_of_config_error (log : Log) (job : Job) (namedExports : Bool)
    (hl : Config.load environment disk path = .error cause) (hp : resources.Perm permuted)
    (hn : resources ≠ []) :
    Reordered environment disk log path job namedExports resources permuted
      (runJob environment disk log path job resources none namedExports)
      (runJob environment disk log path job permuted none namedExports) := by
  have hnil : permuted ≠ [] := fun he => hn (he ▸ hp).eq_nil
  have hfirst := tellsAll_of_config_error log job namedExports hl hn
  have hsecond := tellsAll_of_config_error log job namedExports hl hnil
  rw [runJob_of_config_error log (not_severalCompiled resources) hl] at hfirst ⊢
  rw [runJob_of_config_error log (not_severalCompiled permuted) hl] at hsecond ⊢
  refine { files := fun _ => rfl, exit := rfl, failing := ?_, lines := ⟨fun _ => none, ?_⟩,
           first := hfirst, second := hsecond }
  · rw [failingResources_of_config_error hl, failingResources_of_config_error hl]
    exact hp.symm
  · cases cause.isReport <;> simp

/-- With a configuration and all failures contained, both orders tell of the resources one by
one. -/
theorem reordered_of_contained (log : Log) (job : Job) (namedExports : Bool)
    (hl : Config.load environment disk path = .ok config) (hp : resources.Perm permuted)
    (ha : resources.Pairwise (Apart disk))
    (hc : ∀ attempt ∈ attempts (optionsFor job namedExports config.options) none disk resources,
      attempt.Contained) :
    Reordered environment disk log path job namedExports resources permuted
      (runJob environment disk log path job resources none namedExports)
      (runJob environment disk log path job permuted none namedExports) := by
  let options := optionsFor job namedExports config.options
  have hpermuted := contained_perm hp ha hc
  have hperm := failing_perm hp ha options
  have hfirst := tellsAll_of_contained log job namedExports hl hc
  have hsecond := tellsAll_of_contained log job namedExports hl hpermuted
  rw [runJob_of_contained log (not_severalCompiled resources) hl hc] at hfirst ⊢
  rw [runJob_of_contained log (not_severalCompiled permuted) hl hpermuted] at hsecond ⊢
  refine { files := ?_, exit := ?_, failing := ?_, lines := ?_, first := hfirst, second := hsecond }
  · intro place
    simp only [finishBehind, Disk.file?, entry?_diskBehind_perm hp ha]
  · have hnil : failing (attempts options none disk permuted) = [] ↔
        failing (attempts options none disk resources) = [] :=
      ⟨fun h => (h ▸ hperm).nil_eq.symm, fun h => (h ▸ hperm.symm).nil_eq.symm⟩
    simp only [finishBehind, options, hnil]
  · rw [failingResources_of_config hl, failingResources_of_config hl]
    exact hperm
  · refine ⟨fun resource => (alone disk options resource).line?, ?_, ?_⟩
    · exact congrArg List.flatten (lines_attempts ha)
    · exact congrArg List.flatten (lines_attempts (Apart.pairwise_perm hp ha))

/-- Resources whose declarations lie at different places may be given in any order. For any
command, any configuration and environment and any disk, let one run and a run for the same
resources in another order have the same settings, and let the first not end with a failure other
than a report or a refusal. Then both have in common the bytes of all files, their end, the
resources they fail over, and the lines about success. The exit code is one exactly if some resource
fails, and a resource that fails changes no file. -/
theorem resource_order_irrelevant (environment : Environment) (disk : Disk)
    (texts others : List Text) (verbose quiet : Bool) (path : Path) (job : Job)
    (resources permuted : List Text) (namedExports : Bool)
    (hr : Arguments.read texts =
      .ok ⟨verbose, quiet, path, .reconcile job resources none namedExports⟩)
    (ho : Arguments.read others =
      .ok ⟨verbose, quiet, path, .reconcile job permuted none namedExports⟩)
    (hp : resources.Perm permuted) (ha : resources.Pairwise (Apart disk))
    (hc : ∀ cause, (run environment disk texts).exit = .error cause → cause.IsContained) :
    Reordered environment disk (Log.forConsole verbose quiet) path job namedExports resources
      permuted (run environment disk texts) (run environment disk others) := by
  rw [run_of_read hr] at hc ⊢
  rw [run_of_read ho]
  cases hl : Config.load environment disk path with
  | error cause =>
    exact reordered_of_config_error _ job namedExports hl hp (Arguments.resources_ne_nil hr)
  | ok config =>
    exact reordered_of_contained _ job namedExports hl hp ha (contained_of_runJob hl hc)

/-- One of two resources has no compiled module. Whichever comes first, it is the one that fails,
and the declaration of the other is written. -/
theorem resource_order_irrelevant_missing :
    let environment : Environment := ⟨[], [], none⟩
    let disk : Disk := ⟨[], [(.ofNames ["a.js".toText], .file [])]⟩
    let first := run environment disk [Job.emit.text, ['a'], ['b']]
    let second := run environment disk [Job.emit.text, ['b'], ['a']]
    first.exit = .ok 1 ∧ second.exit = .ok 1 ∧
      ∀ place, second.disk.file? place = first.disk.file? place := by
  intro environment disk first second
  have hr : Arguments.read [Job.emit.text, ['a'], ['b']] =
      .ok ⟨false, false, defaultConfig, .reconcile .emit [['a'], ['b']] none false⟩ :=
    Arguments.read_of_isPlain .emit (by decide) (by decide)
  have ho : Arguments.read [Job.emit.text, ['b'], ['a']] =
      .ok ⟨false, false, defaultConfig, .reconcile .emit [['b'], ['a']] none false⟩ :=
    Arguments.read_of_isPlain .emit (by decide) (by decide)
  have hapart : Apart disk ['a'] ['b'] := by
    rintro place ⟨_, hd, hl⟩ ⟨_, hother, ho⟩
    cases hd
    cases hother
    have hplace : place = .ofNames ["a.d.ts".toText] := (Except.ok.inj hl).symm
    have hsame : place = .ofNames ["b.d.ts".toText] := (Except.ok.inj ho).symm
    exact absurd (hplace.symm.trans hsame) (by decide)
  have ha : [['a'], ['b']].Pairwise (Apart disk) :=
    List.pairwise_cons.mpr ⟨List.forall_mem_singleton.mpr hapart, List.pairwise_singleton _ _⟩
  have hexit : first.exit = .ok 1 := by
    rw [show first = _ from run_of_read hr]
    decide +kernel
  have hboth := resource_order_irrelevant environment disk _ _ false false defaultConfig .emit
    [['a'], ['b']] [['b'], ['a']] false hr ho (List.Perm.swap _ _ []) ha
    fun cause hc => nomatch hexit.symm.trans hc
  exact ⟨hexit, hboth.exit.trans hexit, hboth.files⟩

end StyleTypings.CommandLine
