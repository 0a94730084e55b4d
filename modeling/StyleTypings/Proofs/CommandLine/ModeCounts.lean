import Mathlib
import StyleTypings.Proofs.CommandLine.HookAgreement
import StyleTypings.Proofs.CommandLine.Tasks
import StyleTypings.Proofs.CommandLine.UnknownModes
import StyleTypings.Proofs.Declaration.Lines

/-!
# What a chosen mode counts for

The environment and a configuration may each choose a mode. It counts for the job that leaves the
mode open, and there the environment comes first. A job that names its mode is done as if nothing
were chosen, so a mode that is none does no harm there; where it counts, it fails every resource.
The export choice never depends on the environment. What mode a configuration chooses can still be
told if its file is at the same time the compiled module or the declaration of a resource.
-/

namespace StyleTypings.CommandLine

/-- Two disks that differ at a place, that of the configuration of a task. It can be read on both
and differs in the mode only, and the files of the resources lie elsewhere. -/
structure Task.ConfigsDiffer (task : Task) (environment : Environment) (place : Place)
    (first second : Disk) : Prop where
  /-- The configurations differ in the mode only. -/
  entries : ∃ names chosen other, task.Reads environment first names chosen ∧
    Config.readEntries second names = .ok other ∧ Config.AgreeButMode chosen other
  /-- The compiled modules and the declarations lie elsewhere. -/
  unseen : ∀ path ∈ task.paths, Disk.Unseen place first second path

/-- No job is asked for whose mode is left open. -/
def FixesMode (texts : List Text) : Prop :=
  ∀ task, Task.ofTexts? texts = some task → task.job ≠ .reconcile

/-- What modes in the environment and in a configuration count for, given the arguments. -/
structure ModeCounts (texts : List Text) : Prop where
  /-- If no mode is left open, the one of the environment counts for nothing. -/
  environment : FixesMode texts → ∀ environment mode disk,
    (∀ task, Task.ofTexts? texts = some task → ∀ names entries,
      task.Reads environment disk names entries → Options.modeWritable entries = true) →
    run { environment with mode } disk texts = run environment disk texts
  /-- Nor does the one of the configuration, whatever the environment has in both runs. -/
  configuration : FixesMode texts → ∀ environment mode place first second,
    Disk.DifferAt place first second →
    (∀ task, Task.ofTexts? texts = some task →
      task.ConfigsDiffer environment place first second) →
    SameOff place first second (run environment first texts)
      (run { environment with mode } second texts)
  /-- With a configuration, resources are looked after with the mode of the task, and with an export
  choice that the arguments or the configuration make. If the mode is none, the program fails over
  every resource. -/
  options : ∀ task, Task.ofTexts? texts = some task → ¬task.IsRefused →
    ∀ environment disk names entries, task.Reads environment disk names entries →
    Options.modeWritable (Config.override environment entries) = true → ∃ exports : Bool,
      (exports = true ↔ task.namedExports = true ∨ Options.ChoosesExports entries) ∧
      run environment disk texts =
        lookAfter task.log task.job disk ⟨task.mode environment entries, exports⟩ task.compiled
          task.resources ∧
      (NamesNoMode (task.mode environment entries) →
        FailsOverMode task.log task.job disk ⟨task.mode environment entries, exports⟩ task.compiled
          task.resources (run environment disk texts))
  /-- A mode that counts and cannot be written out ends the program. -/
  unwritable : ∀ task, Task.ofTexts? texts = some task → ¬task.IsRefused →
    ∀ environment disk names entries, task.Reads environment disk names entries →
    Options.modeWritable (Config.override environment entries) = false →
    (run environment disk texts).exit = .error (.scalar .notWritable) ∧
      (run environment disk texts).disk = disk

variable {texts : List Text} {environment : Environment} {first second disk : Disk} {place : Place}

/-! ## Two runs -/

/-- A run that looks at nothing but its arguments does not look at the mode of the environment. -/
theorem run_eq_of_untouched {other : Environment}
    (hu : run other disk texts = { run environment disk texts with disk } ∧
      (run environment disk texts).disk = disk) :
    run other disk texts = run environment disk texts := by
  obtain ⟨hrun, hdisk⟩ := hu
  rw [hrun]
  exact congrArg (fun left => { run environment disk texts with disk := left }) hdisk.symm

/-- A run whose job fixes the mode does not depend on the mode of the environment. -/
theorem run_of_fixed_mode (hf : FixesMode texts)
    (hw : ∀ task, Task.ofTexts? texts = some task → ∀ names entries,
      task.Reads environment disk names entries → Options.modeWritable entries = true)
    (mode : Option Text) :
    run { environment with mode } disk texts = run environment disk texts := by
  cases ht : Task.ofTexts? texts with
  | none => exact run_eq_of_untouched (run_of_no_task ht environment _ disk disk)
  | some task =>
    by_cases hn : task.IsRefused
    · exact run_eq_of_untouched (run_of_refused ht hn environment _ disk disk)
    · cases hl : Config.locate environment disk task.config with
      | error cause => exact run_of_unread ht hn (Or.inl hl) mode
      | ok names =>
        cases he : Config.readEntries disk names with
        | error cause => exact run_of_unread ht hn (Or.inr ⟨names, hl, he⟩) mode
        | ok entries =>
          have hreads : task.Reads environment disk names entries := { found := hl, read := he }
          have hwritable := hw task ht names entries hreads
          rw [run_of_reads ht hn (hreads.withMode mode) (Config.modeWritable_override _ hwritable),
            run_of_reads ht hn hreads (Config.modeWritable_override _ hwritable),
            Task.mode_eq (hf task ht) environment { environment with mode } entries entries]

/-- Nor is it another where the configuration names another mode, apart from the file that names
it. -/
theorem run_of_configs_differ (hf : FixesMode texts) (hd : Disk.DifferAt place first second)
    (hc : ∀ task, Task.ofTexts? texts = some task →
      task.ConfigsDiffer environment place first second) (mode : Option Text) :
    SameOff place first second (run environment first texts)
      (run { environment with mode } second texts) := by
  cases ht : Task.ofTexts? texts with
  | none =>
    obtain ⟨hrun, hdisk⟩ := run_of_no_task ht environment { environment with mode } first second
    rw [hrun]
    exact .of_untouched hd hdisk
  | some task =>
    by_cases hn : task.IsRefused
    · obtain ⟨hrun, hdisk⟩ :=
        run_of_refused ht hn environment { environment with mode } first second
      rw [hrun]
      exact .of_untouched hd hdisk
    · have hdiffer := hc task ht
      obtain ⟨names, chosen, other, hreads, hother, hagree⟩ := hdiffer.entries
      have hfound : Config.locate environment second task.config = .ok names :=
        (Config.locate_eq_of_differAt hd environment task.config).trans hreads.found
      have hotherReads : task.Reads environment second names other :=
        { found := hfound, read := hother }
      rw [run_of_reads ht hn hreads (Config.modeWritable_override _ hagree.writable),
        run_of_reads ht hn (hotherReads.withMode mode)
          (Config.modeWritable_override _ hagree.otherWritable),
        Task.mode_eq (hf task ht) environment { environment with mode } chosen other,
        hagree.namedExportsOf_eq]
      exact lookAfter_of_unseen task.log task.job _ hd hdiffer.unseen

/-! ## A configuration in one line -/

/-- The exit code of a check of one resource whose files can be read tells whether the declaration
is up to date. -/
theorem exit_of_check {verbose quiet namedExports : Bool} {path declaration : Path}
    {resource text existing : Text} {bytes : Bytes} {compiled : Option Path} {config : Config}
    {found : Extraction}
    (hr : Arguments.read texts =
      .ok ⟨verbose, quiet, path, .reconcile .verify [resource] compiled namedExports⟩)
    (hl : Config.load environment disk path = .ok config)
    (ht : Utf8.encode text = .ok bytes)
    (hd : disk.read (compiledPath compiled resource) = .ok bytes)
    (hs : Extraction.select Strategy.defaults (Text.universalNewlines text) = .ok found)
    (hp : (Path.ofText resource).declaration? = some declaration)
    (hx : readDeclaration disk {} declaration = .ok existing) :
    (run environment disk texts).exit =
      .ok (if Text.same (some (Declaration.render (collectKeys found.keys.toList)
        (namedExports || config.options.namedExports))) (some existing) then 0 else 1) := by
  have htold : Tells (runJob environment disk (.forConsole verbose quiet) path .verify [resource]
      compiled namedExports) .verify resource _ := runJob_tells hl
  rw [← run_of_read hr, reconcileResource_of_read ht hd] at htold
  let options := optionsFor .verify namedExports config.options
  let request : Request := { content := Text.universalNewlines text, resource, options }
  let plan : Plan := ⟨.verify, declaration, collectKeys found.keys.toList,
    Declaration.render (collectKeys found.keys.toList) options.namedExports, found.strategy⟩
  have hplan : request.plan = .ok plan := Request.plan_of_select rfl hp hs
  have hcarried : plan.carryOut disk {} = plan.verify disk {} := Plan.carryOut_of_verify rfl
  split
  · next hsame =>
    have hu : plan.UpToDate disk {} := ⟨existing, hx, Plan.same_expected_iff.mp hsame⟩
    have hverified : (plan.carryOut disk {}).result = .ok false := by
      rw [hcarried, Plan.verify_of_upToDate hu]
    exact htold.passes.mpr ⟨_, reconcile_eq_ok_iff.mpr ⟨plan, false, hplan, hverified, rfl⟩⟩
  · next hsame =>
    have hne : Text.crlfToLf existing ≠ Text.crlfToLf plan.expected :=
      fun he => hsame (Plan.same_expected_iff.mpr he)
    have hverified : (plan.carryOut disk {}).result = .error (.declarationOutdated declaration
        (Diff.unified declaration.name (some existing) plan.expected)) := by
      rw [hcarried, Plan.verify_of_different hx hne]
    have hfailed := reconcile_eq_error_iff.mpr (Or.inr ⟨plan, hplan, hverified⟩)
    exact (htold.reports _ hfailed rfl).1

/-- A configuration that chooses a mode in one line, with the key and the mode in quotes. -/
def quotedMode (word : Text) : Text :=
  "'mode': '".toText ++ word ++ "'".toText

theorem encode_quotedMode {word : Text} (hw : word.Plain) :
    Utf8.encode (quotedMode word) = .ok (Utf8.nameBytes (quotedMode word)) := by
  refine Utf8.encode_of_plain ?_
  rw [quotedMode, Text.plain_append, Text.plain_append]
  exact ⟨⟨by decide, hw⟩, by decide⟩

/-- A mode that is none. -/
def strayMode : Text := ['x']

/-- Another one, which a compiled module could hold. -/
def exportMode : Text :=
  ['e', 'x', 'p', 'o', 'r', 't', ' ', '\x7b', ' ', 'a', ' ', 'a', 's', ' ', '\x22', 'k', '\x22',
    ' ', '\x7d']

/-- The entries of a configuration that chooses a mode and nothing else. -/
def onlyMode (word : Text) : List (Value × Value) := [(Options.modeKey, .text word)]

theorem load_strayMode :
    Yaml.load (quotedMode strayMode) = .ok (.mapping (onlyMode strayMode)) := by
  cbv

theorem load_exportMode :
    Yaml.load (quotedMode exportMode) = .ok (.mapping (onlyMode exportMode)) := by
  cbv

/-- Such configurations differ in the mode only. -/
theorem onlyMode_agree (first second : Text) :
    Config.AgreeButMode (onlyMode first) (onlyMode second) :=
  { others := fun key hk => by simp [onlyMode, Value.lookup?, hk]
    writable := rfl
    otherWritable := rfl }

/-- What a chosen mode counts for, whatever the arguments. -/
theorem chosen_mode_counts_for_open_jobs (texts : List Text) : ModeCounts texts := by
  refine { environment := ?_, configuration := ?_, options := ?_, unwritable := ?_ }
  · intro hf environment mode disk hw
    exact run_of_fixed_mode hf hw mode
  · intro hf environment mode place first second hd hc
    exact run_of_configs_differ hf hd hc mode
  · intro task ht hn environment disk names entries hreads hw
    have hrun := run_of_reads ht hn hreads hw
    refine ⟨_, ?_, hrun, fun hnone => ?_⟩
    · rw [Bool.or_eq_true, Options.namedExportsOf_eq_true_iff]
    · rw [hrun]
      exact lookAfter_of_noMode task.log task.job disk hnone task.compiled
        (Task.resources_ne_nil ht)
  · intro task ht hn environment disk names entries hreads hw
    exact run_of_not_writable ht hn hreads hw

/-- Both disks have a configuration whose mode is none. Emitting succeeds on both, also with another
such mode in the environment of the second run. The job that leaves the mode open fails on the
second disk, and changes nothing. -/
theorem chosen_mode_counts_for_open_jobs_stray :
    let environment : Environment := ⟨[], [], none⟩
    let other := { environment with mode := some exportMode }
    let place : Place := .ofNames [Config.fileName]
    let first : Disk := ⟨[], [(.ofNames ["a.js".toText], .file []),
      (place, .file (Utf8.nameBytes (quotedMode exportMode)))]⟩
    let second := first.set place (.file (Utf8.nameBytes (quotedMode strayMode)))
    (run environment first [Job.emit.text, ['a']]).exit = .ok 0 ∧
      (run other second [Job.emit.text, ['a']]).exit = .ok 0 ∧
      (run environment second [Job.reconcile.text, ['a']]).exit ≠ .ok 0 ∧
      (run environment second [Job.reconcile.text, ['a']]).disk = second := by
  intro environment other place first second
  let task (job : Job) : Task :=
    ⟨.forConsole false false, defaultConfig, job, [['a']], none, false⟩
  have htask : ∀ job : Job, Task.ofTexts? [job.text, ['a']] = some (task job) := by
    intro job
    have hread : Arguments.read [job.text, ['a']] =
        .ok ⟨false, false, defaultConfig, .reconcile job [['a']] none false⟩ :=
      Arguments.read_of_isPlain job (by decide) (by decide)
    rw [Task.ofTexts?, hread]
  have hn : ∀ job, ¬(task job).IsRefused := fun job hs => absurd hs.2 (Nat.lt_irrefl 1)
  have hdiffer : Disk.DifferAt place first second := by
    refine .of_set ?_ _
    intro he
    cases he
  have hreads : ∀ job,
      (task job).Reads environment first [Config.fileName] (onlyMode exportMode) := fun job =>
    { found := by rfl
      read := Config.readEntries_of_text (by rfl) (by rfl) (encode_quotedMode (by decide))
        (by decide) (by rfl) load_exportMode }
  have hother : ∀ job,
      (task job).Reads environment second [Config.fileName] (onlyMode strayMode) := fun job =>
    { found := (Config.locate_eq_of_differAt hdiffer _ _).trans (hreads job).found
      read := Config.readEntries_of_text (by rfl) (by rfl) (encode_quotedMode (by decide))
        (by decide) (by rfl) load_strayMode }
  have hunseen : ∀ path ∈ (task .emit).paths, Disk.Unseen place first second path := by
    refine fun path hp => hdiffer.unseen_of_isSome_eq (by rfl) fun hl => ?_
    have hpaths : (task .emit).paths =
        [Path.ofText "a.js".toText, Path.ofText "a.d.ts".toText] := by rfl
    rw [hpaths, List.mem_cons, List.mem_singleton] at hp
    rcases hp with rfl | rfl
    · exact absurd (Except.ok.inj hl) (by decide)
    · exact absurd (Except.ok.inj hl) (by decide)
  have hfixes : FixesMode [Job.emit.text, ['a']] := by
    intro chosen hc
    cases (htask .emit).symm.trans hc
    decide
  have hconfigs : ∀ chosen, Task.ofTexts? [Job.emit.text, ['a']] = some chosen →
      chosen.ConfigsDiffer environment place first second := by
    intro chosen hc
    cases (htask .emit).symm.trans hc
    exact { entries := ⟨_, _, _, hreads .emit, (hother .emit).read, onlyMode_agree _ _⟩
            unseen := hunseen }
  have hexit : (run environment first [Job.emit.text, ['a']]).exit = .ok 0 := by
    rw [run_of_reads (htask .emit) (hn .emit) (hreads .emit) rfl]
    decide +kernel
  have hsame := (chosen_mode_counts_for_open_jobs [Job.emit.text, ['a']]).configuration hfixes
    environment (some exportMode) place first second hdiffer hconfigs
  have hnone : NamesNoMode strayMode := by
    intro mode
    cases mode <;> decide
  obtain ⟨exports, -, -, hunknown⟩ :=
    (chosen_mode_counts_for_open_jobs [Job.reconcile.text, ['a']]).options _ (htask .reconcile)
      (hn .reconcile) environment second _ _ (hother .reconcile) rfl
  have hfails := hunknown hnone
  exact ⟨hexit, hsame.exit.trans hexit, hfails.exit, hfails.unchanged⟩

/-- The configuration is named as the compiled module of the resource. A check, which names its own
mode, passes with one mode in it and fails with another. -/
theorem named_configuration_tells_mode :
    let texts : List Text := [Job.verify.text, compiledOption, Config.fileName, ['a']]
    let environment : Environment := ⟨[], [], none⟩
    let place : Place := .ofNames [Config.fileName]
    let first : Disk := ⟨[], [(place, .file (Utf8.nameBytes (quotedMode strayMode))),
      (.ofNames ["a.d.ts".toText], .file (Utf8.nameBytes (Declaration.render [] false)))]⟩
    let second := first.set place (.file (Utf8.nameBytes (quotedMode exportMode)))
    FixesMode texts ∧ Disk.DifferAt place first second ∧
      Config.locate environment first defaultConfig = .ok [Config.fileName] ∧
      Config.readEntries first [Config.fileName] = .ok (onlyMode strayMode) ∧
      Config.readEntries second [Config.fileName] = .ok (onlyMode exportMode) ∧
      Config.AgreeButMode (onlyMode strayMode) (onlyMode exportMode) ∧
      (run environment first texts).exit = .ok 0 ∧
      (run environment second texts).exit = .ok 1 := by
  intro texts environment place first second
  have hread : Arguments.read texts = .ok ⟨false, false, defaultConfig,
      .reconcile .verify [['a']] (some (Path.ofText Config.fileName)) false⟩ :=
    Arguments.read_of_compiled .verify (by decide) (by decide) (by decide)
  have hfixes : FixesMode texts := by
    intro task ht
    rw [Task.ofTexts?, hread] at ht
    cases ht
    decide
  have hdiffer : Disk.DifferAt place first second := by
    refine .of_set ?_ _
    intro he
    cases he
  have hlocate : Config.locate environment first defaultConfig = .ok [Config.fileName] := by rfl
  have hotherLocate : Config.locate environment second defaultConfig = .ok [Config.fileName] :=
    (Config.locate_eq_of_differAt hdiffer _ _).trans hlocate
  have hentries : Config.readEntries first [Config.fileName] = .ok (onlyMode strayMode) :=
    Config.readEntries_of_text (by rfl) (by rfl) (encode_quotedMode (by decide)) (by decide)
      (by rfl) load_strayMode
  have hotherEntries : Config.readEntries second [Config.fileName] = .ok (onlyMode exportMode) :=
    Config.readEntries_of_text (by rfl) (by rfl) (encode_quotedMode (by decide)) (by decide)
      (by rfl) load_exportMode
  have hdeclared : ∀ disk : Disk, disk.read (Path.ofText "a.d.ts".toText) =
      .ok (Utf8.nameBytes (Declaration.render [] false)) →
      readDeclaration disk {} (Path.ofText "a.d.ts".toText) =
        .ok (Declaration.render [] false) := by
    intro disk hd
    have hplain : (Declaration.render [] false).Plain :=
      Declaration.plain_render_iff.mpr (List.forall_mem_nil _)
    simp only [readDeclaration, hd, Utf8.decode_encode (Utf8.encode_of_plain hplain)]
  refine ⟨hfixes, hdiffer, hlocate, hentries, hotherEntries, onlyMode_agree _ _, ?_, ?_⟩
  · -- No key is found in the configuration, and the declaration has none.
    obtain ⟨found, hs, hkeys⟩ : ∃ found, Extraction.select Strategy.defaults
        (Text.universalNewlines (quotedMode strayMode)) = .ok found ∧ found.keys.toList = [] :=
      ⟨_, rfl, rfl⟩
    have hsame : Text.same (some (Declaration.render (collectKeys [])
        (false || Options.namedExportsOf (onlyMode strayMode))))
        (some (Declaration.render [] false)) = true :=
      (Declaration.same_render_iff (by decide) (by decide)).mpr ⟨.refl _, rfl⟩
    rw [exit_of_check hread (Config.load_of_readEntries hlocate hentries rfl)
      (encode_quotedMode (by decide)) (by rfl) hs (by rfl) (hdeclared first (by rfl)), hkeys]
    exact congrArg Except.ok (if_pos hsame)
  · -- Now there is one, which the declaration lacks.
    obtain ⟨found, hs, hkeys⟩ : ∃ found, Extraction.select Strategy.defaults
        (Text.universalNewlines (quotedMode exportMode)) = .ok found ∧
          found.keys.toList = [[.char 'k']] :=
      ⟨_, rfl, rfl⟩
    have hsame : ¬Text.same (some (Declaration.render (collectKeys [['k']])
        (false || Options.namedExportsOf (onlyMode exportMode))))
        (some (Declaration.render [] false)) = true := by
      intro hs
      have hperm := ((Declaration.same_render_iff (by decide) (by decide)).mp hs).1
      exact absurd hperm.length_eq (by decide)
    rw [exit_of_check hread (Config.load_of_readEntries hotherLocate hotherEntries rfl)
      (encode_quotedMode (by decide)) (by rfl) hs (by rfl) (hdeclared second (by rfl)), hkeys]
    exact congrArg Except.ok (if_neg hsame)

end StyleTypings.CommandLine
