import StyleTypings.Hook
import StyleTypings.Proofs.CommandLine.Elsewhere
import StyleTypings.Proofs.CommandLine.PlainArguments
import StyleTypings.Proofs.Keys.Newlines
import StyleTypings.Proofs.Reconcile.Readings

/-!
# The program and the hook agree

The program reads the compiled module from its file and makes all line ends line feeds, and a
hook is given the text as it is. Both see the same keys up to the line ends in them. Where no key
has a carriage return, both come to the same plan, so they leave the same disk, and the program
fails over just what the hook fails over. The options are taken to be the same on both sides, so
nothing is said about a configuration that cannot be loaded.
-/

namespace StyleTypings

open CommandLine

variable {first second : Request} {found through : Extraction} {disk : Disk} {cause : Failure}

/-! ## One plan -/

/-- Texts in which the same strategy finds the same keys come to the same plan. -/
theorem Request.plan_eq_of_select (ho : first.options = second.options)
    (hr : first.resource = second.resource)
    (hf : Extraction.select first.strategies first.content = .ok found)
    (ht : Extraction.select second.strategies second.content = .ok through)
    (hstrategy : through.strategy = found.strategy)
    (hkeys : through.keys.toList = found.keys.toList) : first.plan = second.plan := by
  simp only [plan, ho, hr, hf, ht, hstrategy, hkeys]

/-- Requests with the same plan leave the same disk. -/
theorem disk_of_plan_eq (hp : first.plan = second.plan) (hf : first.faults = second.faults) :
    (reconcile disk first).disk = (reconcile disk second).disk := by
  cases hs : second.plan with
  | error cause => rw [reconcile_of_plan_error disk (hp.trans hs), reconcile_of_plan_error disk hs]
  | ok plan =>
    rw [(reconcile_of_plan disk (hp.trans hs)).2.1, (reconcile_of_plan disk hs).2.1, hf]

/-- Requests with the same plan fail over the same. -/
theorem error_iff_of_plan_eq (hp : first.plan = second.plan) (hf : first.faults = second.faults) :
    (reconcile disk first).result = .error cause ↔
      (reconcile disk second).result = .error cause := by
  rw [reconcile_eq_error_iff, reconcile_eq_error_iff, hp, hf]

/-- A hook fails as its reconciliation does. -/
theorem load_eq_error_iff {given : HostOptions} {request : Request} :
    (load disk given request).result = .error cause ↔
      (reconcileGiven disk given request).result = .error cause := by
  have hresult : (load disk given request).result = (reconcileGiven disk given request).result.map
      fun outcome => (outcome.content, outcome.passthrough) := rfl
  rw [hresult]
  cases (reconcileGiven disk given request).result <;>
    simp only [Except.map, reduceCtorEq, Except.error.injEq]

/-! ## One resource -/

variable {α β : Type} {environment : Environment} {config : Config} {path : Path}
  {compiled : Option Path} {options : Options} {job : Job} {namedExports : Bool}
  {resource text : Text} {bytes : Bytes} {log : Log} {finish : Finish}

/-- The program reconciles the text with line feeds. -/
theorem CommandLine.reconcileResource_of_read (ht : Utf8.encode text = .ok bytes)
    (hd : disk.read (compiledPath compiled resource) = .ok bytes) :
    reconcileResource disk options compiled resource =
      reconcile disk { content := Text.universalNewlines text, resource, options } := by
  have hcontent : Config.readText disk (compiledPath compiled resource) =
      .ok (Text.universalNewlines text) := by
    simp only [Config.readText, hd, Utf8.decode_encode ht]
  rw [reconcileResource, hcontent]

/-- What the end of the program says about the one resource that was looked after. -/
structure Tells (finish : Finish) (job : Job) (resource : Text) (run : Run α) : Prop where
  /-- The disk is the one that is left. -/
  disk : finish.disk = run.disk
  /-- The program succeeds exactly if there is no failure. -/
  passes : finish.exit = .ok 0 ↔ ∃ value, run.result = .ok value
  /-- A failure that is contained is reported and counted. -/
  reports : ∀ cause, run.result = .error cause → cause.IsContained →
    finish.exit = .ok 1 ∧
      ∃ notes, finish.stderr = notes ++ failureLine resource cause ++ failuresLine job 1
  /-- Any other failure ends the program. -/
  ends : ∀ cause, run.result = .error cause → ¬cause.IsContained → finish.exit = .error cause

/-- Two computations that leave the same disk and fail over the same are told of alike. -/
theorem Tells.congr {first : Run α} {second : Run β} (ht : Tells finish job resource first)
    (hd : first.disk = second.disk)
    (he : ∀ cause, first.result = .error cause ↔ second.result = .error cause) :
    Tells finish job resource second := by
  have hok : (∃ value, first.result = .ok value) ↔ ∃ value, second.result = .ok value := by
    cases hf : first.result with
    | error cause =>
      have hs := (he cause).mp hf
      simp only [hs, reduceCtorEq, exists_false]
    | ok value =>
      cases hs : second.result with
      | error cause => exact nomatch hf.symm.trans ((he cause).mpr hs)
      | ok other => exact iff_of_true ⟨value, rfl⟩ ⟨other, rfl⟩
  exact { disk := ht.disk.trans hd
          passes := ht.passes.trans hok
          reports := fun cause hr hc => ht.reports cause ((he cause).mpr hr) hc
          ends := fun cause hr hc => ht.ends cause ((he cause).mpr hr) hc }

/-- One attempt whose failure is contained is told of in full. -/
theorem CommandLine.finishBehind_tells {attempt : Attempt} (hc : attempt.Contained) :
    Tells (finishBehind log job disk [attempt]) job attempt.resource attempt.run := by
  cases hr : attempt.run.result with
  | ok outcome =>
    have hnone : failing [attempt] = [] := by simp [failing, Attempt.failure?, hr]
    have hexit : (finishBehind log job disk [attempt]).exit = .ok 0 := by
      simp only [finishBehind, hnone, if_true]
    have hnot : ∀ cause, attempt.run.result ≠ .error cause := by
      intro cause hf
      cases hr.symm.trans hf
    exact { disk := rfl
            passes := iff_of_true hexit ⟨outcome, hr⟩
            reports := fun cause hf => absurd hf (hnot cause)
            ends := fun cause hf => absurd hf (hnot cause) }
  | error cause =>
    have hfailure : attempt.failure? = some cause := by simp only [Attempt.failure?, hr]
    have hone : failing [attempt] = [attempt.resource] := by simp [failing, hfailure]
    have hexit : (finishBehind log job disk [attempt]).exit = .ok 1 := by
      simp only [finishBehind, hone, List.cons_ne_nil, if_false]
    have hprinted : (finishBehind log job disk [attempt]).stderr =
        notesText log attempt.run.disk attempt.run.notes ++ failureLine attempt.resource cause ++
          failuresLine job 1 := by
      simp [finishBehind, closing, hone, Attempt.diagnostics, hfailure]
    refine { disk := rfl, passes := ?_, reports := ?_, ends := ?_ }
    · simp [hexit, hr]
    · intro other ho _
      cases hr.symm.trans ho
      exact ⟨hexit, _, hprinted⟩
    · intro other ho hother
      exact absurd (hc other ho) hother

/-- The program tells what became of the one resource that it was asked for. -/
theorem CommandLine.runJob_tells (hl : Config.load environment disk path = .ok config) :
    Tells (runJob environment disk log path job [resource] compiled namedExports) job resource
      (reconcileResource disk (optionsFor job namedExports config.options) compiled resource) := by
  have hs : ¬SeveralCompiled compiled [resource] := fun hs => absurd hs.2 (Nat.lt_irrefl 1)
  let only : Attempt := ⟨resource, disk,
    reconcileResource disk (optionsFor job namedExports config.options) compiled resource⟩
  rcases only.contained_or_escapes with hc | ⟨cause, hr, hc⟩
  · rw [runJob_of_contained log hs hl (List.forall_mem_singleton.mpr hc)]
    exact finishBehind_tells hc
  · have he : EndsAt (optionsFor job namedExports config.options) compiled disk [resource] [] only
        cause :=
      { splits := ⟨[], rfl⟩
        contained := fun attempt ha => absurd ha List.not_mem_nil
        before := rfl
        run := rfl
        fails := hr
        escapes := hc }
    obtain ⟨hexit, hdisk⟩ := runJob_of_endsAt log hs hl he
    have hresult : (reconcileResource disk (optionsFor job namedExports config.options) compiled
        resource).result = .error cause := hr
    refine { disk := hdisk, passes := ?_, reports := ?_, ends := ?_ }
    · simp only [hexit, hresult, reduceCtorEq, exists_false]
    · intro other ho hother
      cases hresult.symm.trans ho
      exact absurd hother hc
    · intro other ho _
      cases hresult.symm.trans ho
      exact hexit

/-- The program and the hook, for any text of a compiled module. Making its line ends line feeds
changes neither which strategy is selected nor how many keys there are, and in the keys only the
line ends. If no key has a carriage return, then for any disk where the file of the compiled module
has the bytes of the text, any job on the one resource and any options that the arguments and the
configuration come to, the program tells of the resource what becomes of a hook that is given the
text with the same options, in whatever form the host hands them over. -/
theorem program_agrees_with_hook (text : Text) :
    ∃ found through, Extraction.select Strategy.defaults text = .ok found ∧
      Extraction.select Strategy.defaults (Text.universalNewlines text) = .ok through ∧
      through.strategy = found.strategy ∧ through.recognised = found.recognised ∧
      through.keys.toList = found.keys.toList.map Text.universalNewlines ∧
      ((∀ key ∈ found.keys.toList, .char '\r' ∉ key) →
        ∀ environment disk texts verbose quiet path job resource compiled namedExports config,
          Arguments.read texts =
            .ok ⟨verbose, quiet, path, .reconcile job [resource] compiled namedExports⟩ →
          Config.load environment disk path = .ok config →
          ∀ bytes, Utf8.encode text = .ok bytes →
          disk.read (compiledPath compiled resource) = .ok bytes →
          ∀ given : HostOptions, given.options = .ok (optionsFor job namedExports config.options) →
          ∀ passthrough, Tells (run environment disk texts) job resource
            (load disk given { content := text, resource, passthrough })) := by
  obtain ⟨-, found, hf, -⟩ := Extraction.exists_finds_defaults text
  have ht : Extraction.select Strategy.defaults (Text.universalNewlines text) =
      .ok found.withLineFeeds := by
    rw [Extraction.select_universalNewlines, hf]
    rfl
  have hkeys : found.withLineFeeds.keys.toList = found.keys.toList.map Text.universalNewlines :=
    KeyReader.toList_withLineFeeds found.keys
  refine ⟨found, found.withLineFeeds, hf, ht, rfl, rfl, hkeys, ?_⟩
  intro hreturn environment disk texts verbose quiet path job resource compiled namedExports config
    hread hl bytes hbytes hd given hgiven passthrough
  have hsame : found.withLineFeeds.keys.toList = found.keys.toList := by
    rw [hkeys]
    refine (List.map_congr_left fun key hk => ?_).trans (List.map_id _)
    exact Text.universalNewlines_of_not_mem (hreturn key hk)
  let options := optionsFor job namedExports config.options
  let filed : Request := { content := Text.universalNewlines text, resource, options }
  let handed : Request := { content := text, resource, passthrough, options }
  have hp : handed.plan = filed.plan := Request.plan_eq_of_select rfl rfl hf ht rfl hsame
  have htold : Tells (run environment disk texts) job resource (reconcile disk filed) := by
    have hone : Tells (runJob environment disk (Log.forConsole verbose quiet) path job [resource]
        compiled namedExports) job resource _ := runJob_tells hl
    rw [← run_of_read hread, reconcileResource_of_read hbytes hd] at hone
    exact hone
  have hhook : reconcileGiven disk given { content := text, resource, passthrough } =
      reconcile disk handed := reconcileGiven_of_options disk hgiven
  refine htold.congr ?_ fun cause => ?_
  · rw [load, hhook]
    exact (disk_of_plan_eq hp rfl).symm
  · rw [load_eq_error_iff, hhook]
    exact (error_iff_of_plan_eq hp rfl).symm

/-- Carriage returns stand behind the marker and around the keys. The program looks for the file
beside the resource and finds it; the hook is given its text. Both write the declaration. -/
theorem program_agrees_with_hook_carriageReturns :
    let text : Text := "exports.locals = \x7b\r\n\"a\": 1,\r\"b\": 2\r\n".toText
    let environment : Environment := ⟨[], [], none⟩
    let disk : Disk := ⟨[], [(.ofNames ["a.js".toText], .file (Utf8.nameBytes text))]⟩
    let finish := run environment disk [Job.emit.text, ['a']]
    let hook := load disk (.made ⟨Mode.emit.text, false⟩) { content := text, resource := ['a'] }
    finish.exit = .ok 0 ∧ finish.disk = hook.disk ∧ ∃ passed, hook.result = .ok passed := by
  intro text environment disk finish hook
  have hread : Arguments.read [Job.emit.text, ['a']] = .ok ⟨false, false, defaultConfig,
      .reconcile .emit [['a']] none false⟩ :=
    Arguments.read_of_isPlain .emit (by decide) (by decide)
  have hl : Config.load environment disk defaultConfig = .ok ⟨[], {}⟩ := by rfl
  have hbytes : Utf8.encode text = .ok (Utf8.nameBytes text) := Utf8.encode_of_plain (by decide)
  have hd : disk.read (compiledPath none ['a']) = .ok (Utf8.nameBytes text) := by rfl
  obtain ⟨found, -, hf, -, -, -, -, hagree⟩ := program_agrees_with_hook text
  have hfound : Extraction.select Strategy.defaults text = .ok
    ⟨"locals".toText, true, .entries "\r\n\"a\": 1,\r\"b\": 2\r\n".toText⟩ := by rfl
  have hkeys : ∀ key ∈ found.keys.toList, .char '\r' ∉ key := by
    cases hf.symm.trans hfound
    decide
  have htold := hagree hkeys environment disk _ false false _ .emit ['a'] none false _ hread hl _
    hbytes hd (.made ⟨Mode.emit.text, false⟩) rfl []
  let handed : Request := { content := text, resource := ['a'] }
  have hplan : handed.plan = .ok ⟨.emit, ⟨.working, ["a.d.ts".toText]⟩,
      collectKeys found.keys.toList, _, found.strategy⟩ :=
    Request.plan_of_select rfl rfl hf
  have hopens : disk.Opens ⟨.working, ["a.d.ts".toText]⟩ := ⟨_, rfl, by decide⟩
  have hreturns : (reconcile disk handed).result = .ok _ :=
    reconcile_of_due hplan rfl (Or.inl ⟨.notFound, _, rfl⟩) rfl hopens
      (plain_expected (by decide) hplan)
  have hpassed : ∃ passed, hook.result = .ok passed :=
    ⟨_, (congrArg (Except.map fun outcome : Outcome => (outcome.content, outcome.passthrough))
      hreturns :)⟩
  exact ⟨htold.passes.mpr hpassed, htold.disk, hpassed⟩

end StyleTypings
