import StyleTypings.Proofs.CommandLine.Operands
import StyleTypings.Proofs.CommandLine.Batch

/-!
# Flags before and behind the command

The flags for messages are options of the program and of every job. One that stands in front of the
command is read by the program, and one behind it by the job; the wishes that they make are put
together afterwards. So a flag has the same effect wherever it stands, and of two flags on both
sides of the command, one for more messages wins.
-/

namespace StyleTypings.CommandLine

/-- A flag for messages. -/
structure Flag where
  /-- Whether it asks for more messages, and not for fewer. -/
  more : Bool
  /-- Whether it is written as one letter. -/
  short : Bool
  deriving DecidableEq, Repr

namespace Flag

/-- The flag as it is written. -/
def text : Flag → Text
  | ⟨true, true⟩ => "-v".toText
  | ⟨true, false⟩ => "--verbose".toText
  | ⟨false, true⟩ => "-q".toText
  | ⟨false, false⟩ => "--quiet".toText

/-- What it sets. -/
def setting (flag : Flag) : Setting := if flag.more then .verbose else .quiet

/-- The option that it is a spelling of. -/
def spec (flag : Flag) : Spec :=
  if flag.more then ⟨.verbose, ["-v".toText, "--verbose".toText], false⟩
  else ⟨.quiet, ["-q".toText, "--quiet".toText], false⟩

/-- The argument that it is. -/
def argument (flag : Flag) : Argument :=
  ⟨flag.text, .option (some ⟨flag.spec, flag.text, none⟩)⟩

/-- The threshold for it alone. -/
def level (flag : Flag) : Level := if flag.more then .debug else .warning

end Flag

/-- Where a flag stands beside other arguments. -/
inductive Side where
  /-- In front of them. -/
  | front
  /-- Behind them. -/
  | back
  deriving DecidableEq, Repr

/-- Arguments with a flag beside them. -/
def Flag.beside (flag : Flag) (texts : List Text) : Side → List Text
  | .front => flag.text :: texts
  | .back => texts ++ [flag.text]

/-- How the configuration is named. -/
inductive ConfigChoice where
  /-- It is not. -/
  | unnamed
  /-- By a value in an argument of its own. -/
  | apart (value : Text)
  /-- By a value behind an equals sign. -/
  | attached (value : Text)
  deriving DecidableEq, Repr

/-- The option that names the configuration. -/
def configOption : Text := "--config".toText

namespace ConfigChoice

/-- The arguments that name it. -/
def texts : ConfigChoice → List Text
  | unnamed => []
  | apart value => [configOption, value]
  | attached value => [configOption ++ .char '=' :: value]

/-- The path that is named. -/
def path : ConfigChoice → Path
  | unnamed => defaultConfig
  | apart value | attached value => Path.ofText value

/-- A value that stands apart is not taken for an option. -/
def IsTaken : ConfigChoice → Prop
  | apart value => mainGrammar.kindOf value = .ok .plain
  | _ => True

end ConfigChoice

variable {α : Type} {grammar : Grammar} {meaning : List Text → Except Stop α}
  {reading next : Reading α} {flag : Flag} {config : ConfigChoice} {lead resources : List Text}
  {text value : Text}

/-! ## One flag -/

namespace Reading

/-- The reading with one more setting. -/
def adding (reading : Reading α) (setting : Setting) (value : Text) : Reading α :=
  { reading with settings := reading.settings ++ [(setting, value)] }

/-- A setting is made unless an opposite one was made. -/
theorem make_of_no_rival {spec : Spec}
    (hn : ∀ rival, rival? spec.setting = some rival → reading.has rival = false)
    (hh : spec.setting ≠ .help) (hs : spec.setting ≠ .socket) (value : Text) :
    make grammar reading spec value = .ok (reading.adding spec.setting value) := by
  have hnone : conflict? grammar reading spec = none := by
    unfold conflict?
    split
    · rfl
    · next rival hr => rw [hn rival hr, if_neg Bool.false_ne_true]
  rw [make, hnone]
  dsimp only
  rw [if_neg hh, if_neg fun h => hs h.1]
  rfl

end Reading

/-- A flag is found among the options of each grammar that has the common ones. -/
theorem Grammar.kindOf_flag {more : List Spec} (ho : grammar.options = commonOptions ++ more)
    (flag : Flag) :
    grammar.kindOf flag.text = .ok (.option (some ⟨flag.spec, flag.text, none⟩)) := by
  obtain ⟨program, usage, help, options, operands⟩ := grammar
  cases ho
  obtain ⟨_ | _, _ | _⟩ := flag <;> rfl

theorem Flag.text_ne_separator (flag : Flag) : flag.text ≠ ['-', '-'] := by
  obtain ⟨_ | _, _ | _⟩ := flag <;> decide

/-- A flag in front of other texts is classified by itself. -/
theorem Grammar.classify_flag {more : List Spec} (ho : grammar.options = commonOptions ++ more)
    (flag : Flag) (texts : List Text) : grammar.classify (flag.text :: texts) =
      (grammar.classify texts).map (flag.argument :: ·) :=
  classify_cons (kindOf_flag ho flag) flag.text_ne_separator texts

/-- A flag is told apart on either side of plain arguments. -/
theorem Grammar.exists_classify_beside {more : List Spec}
    (ho : grammar.options = commonOptions ++ more) (flag : Flag) (side : Side)
    (hp : ∀ resource ∈ resources, IsPlain resource) :
    ∃ arguments, grammar.classify (flag.beside resources side) = .ok arguments := by
  cases side with
  | front =>
    rw [Flag.beside, classify_flag ho, classify_of_isPlain hp]
    exact ⟨_, rfl⟩
  | back =>
    rw [Flag.beside, classify_append hp, classify_flag ho]
    exact ⟨_, rfl⟩

/-- A flag makes its setting, unless the opposite one was made. -/
theorem Reading.takeOption_flag
    (hn : ∀ rival, rival? flag.setting = some rival → reading.has rival = false)
    (rest : List Argument) :
    takeOption grammar reading ⟨flag.spec, flag.text, none⟩ rest =
      .ok (reading.adding flag.setting [], rest) := by
  have hmake : make grammar reading flag.spec [] = .ok (reading.adding flag.setting []) := by
    obtain ⟨_ | _, _ | _⟩ := flag <;> exact make_of_no_rival hn (by decide) (by decide) []
  have hvalue : flag.spec.takesValue = false := by
    obtain ⟨_ | _, short⟩ := flag <;> rfl
  simp only [takeOption, hvalue, hmake, Bool.false_eq_true, if_false]
  rfl

/-- A flag is read where its rival was not given. -/
theorem Grammar.leads_flag {more : List Spec} (ho : grammar.options = commonOptions ++ more)
    (hn : ∀ rival, Reading.rival? flag.setting = some rival → reading.has rival = false) :
    grammar.Leads meaning [flag.text] reading (reading.adding flag.setting []) :=
  leads_option (kindOf_flag ho flag) flag.text_ne_separator (Reading.takeOption_flag hn)

/-- The first one is never refused. -/
theorem Grammar.leads_first_flag {more : List Spec} (ho : grammar.options = commonOptions ++ more)
    (flag : Flag) : grammar.Leads meaning [flag.text] {} (Reading.adding {} flag.setting []) :=
  leads_flag ho fun _ _ => rfl

/-! ## The configuration -/

/-- The option for the configuration in the grammar of the program. -/
def configSpec : Spec := ⟨.config, [configOption], true⟩

theorem kindOf_configOption : mainGrammar.kindOf configOption =
    .ok (.option (some ⟨configSpec, configOption, none⟩)) := rfl

/-- The option for the configuration takes its value behind an equals sign too. -/
theorem kindOf_attached (value : Text) : mainGrammar.kindOf (configOption ++ .char '=' :: value) =
    .ok (.option (some ⟨configSpec, configOption, some value⟩)) := rfl

/-- What is read of the configuration. -/
def ConfigChoice.read (config : ConfigChoice) (reading : Reading α) : Reading α :=
  match config with
  | unnamed => reading
  | apart value | attached value => reading.adding .config value

/-- The program tells the double hyphen apart before it looks for options. -/
theorem ne_separator_of_kindOf {kind : Kind} (hk : mainGrammar.kindOf text = .ok kind) :
    text ≠ ['-', '-'] := by
  rintro rfl
  cases hk

/-- A configuration that is named is read, whatever was read before. -/
theorem leads_config {meaning : List Text → Except Stop α} (ht : config.IsTaken)
    (reading : Reading α) :
    mainGrammar.Leads meaning config.texts reading (config.read reading) := by
  cases config with
  | unnamed => exact Grammar.leads_nil reading
  | apart value =>
    exact Grammar.leads_option_value kindOf_configOption (by decide) ht
      (ne_separator_of_kindOf ht) fun rest => rfl
  | attached value =>
    exact Grammar.leads_option (kindOf_attached value)
      (ne_separator_of_kindOf (kindOf_attached value)) fun rest => rfl

/-- The end of a program that misses the value of the option for the configuration. -/
def missingValue : Stop :=
  .misuse mainGrammar ("argument ".toText ++ configSpec.title ++ ": ".toText ++
    "expected one argument".toText)

/-- What is no plain argument is no value either. -/
theorem readAll_of_no_value {meaning : List Text → Except Stop α} {argument : Argument}
    (hk : argument.kind ≠ .plain) (reading : Reading α) (rest : List Argument) :
    Reading.readAll mainGrammar meaning reading
      (⟨configOption, .option (some ⟨configSpec, configOption, none⟩)⟩ :: argument :: rest) =
      .error missingValue := by
  have htaken : Reading.takeOption mainGrammar reading ⟨configSpec, configOption, none⟩
      (argument :: rest) = .error missingValue := by
    obtain ⟨text, _ | _ | found⟩ := argument
    · exact absurd rfl hk
    · rfl
    · rfl
  rw [Reading.readAll]
  split
  · next hf => exact congrArg Except.error (Except.error.inj (hf.symm.trans htaken))
  · next hf => cases hf.symm.trans htaken

/-- What is not taken for a value cannot be told apart at all, or comes out as something else. -/
theorem classify_of_no_value (hv : mainGrammar.kindOf value ≠ .ok .plain) :
    (∃ stop, ∀ texts, mainGrammar.classify (value :: texts) = .error stop) ∨
      ∀ texts arguments, mainGrammar.classify texts = .ok arguments →
        ∃ argument rest, mainGrammar.classify (value :: texts) = .ok (argument :: rest) ∧
          argument.kind ≠ .plain := by
  by_cases hs : value = ['-', '-']
  · refine Or.inr fun texts arguments _ => ?_
    rw [Grammar.classify, if_pos hs]
    refine ⟨_, _, rfl, ?_⟩
    intro hk
    cases hk
  · cases hk : mainGrammar.kindOf value with
    | error stop =>
      refine Or.inl ⟨stop, fun texts => ?_⟩
      rw [Grammar.classify, if_neg hs, hk]
    | ok kind =>
      refine Or.inr fun texts arguments hc => ?_
      rw [Grammar.classify_cons hk hs, hc]
      exact ⟨_, _, rfl, fun he => hv (hk.trans (congrArg Except.ok he))⟩

/-- What stands apart and is not taken for a value ends the program, whatever stands around it. -/
theorem Arguments.exists_stop_of_value (hv : mainGrammar.kindOf value ≠ .ok .plain) :
    ∃ stop, ∀ {lead texts : List Text} {arguments : List Argument} {reading : Reading Subcommand},
      mainGrammar.Leads Subcommand.read lead {} reading →
      mainGrammar.classify texts = .ok arguments →
      Arguments.read (lead ++ configOption :: value :: texts) = .error stop := by
  have hoption := fun texts => Grammar.classify_cons kindOf_configOption (by decide) texts
  rcases classify_of_no_value hv with ⟨stop, hstop⟩ | hother
  · refine ⟨stop, fun hl _ => ?_⟩
    obtain ⟨options, hclassify, -⟩ := hl
    rw [read, Grammar.read, hclassify, hoption, hstop]
    rfl
  · refine ⟨missingValue, fun hl hc => ?_⟩
    obtain ⟨options, hclassify, hread⟩ := hl
    obtain ⟨argument, rest, hvalue, hk⟩ := hother _ _ hc
    rw [read, Grammar.read, hclassify, hoption, hvalue]
    dsimp only [Except.map]
    rw [hread, readAll_of_no_value hk]

/-! ## Flags behind the command -/

/-- A job reads a flag in front of its resources. -/
theorem Subcommand.readJob_of_flag_first (job : Job) (flag : Flag) (hn : resources ≠ [])
    (hp : ∀ resource ∈ resources, IsPlain resource) :
    readJob job (flag.text :: resources) =
      .ok ⟨flag.more, !flag.more, .reconcile job resources none false, []⟩ := by
  have hsome : (jobGrammar job).operands ≠ .none := by
    intro ho
    cases ho
  have hlead : (jobGrammar job).Leads Except.ok [flag.text] {} (.adding {} flag.setting []) :=
    Grammar.leads_first_flag rfl flag
  have hread := hlead.read_of_isPlain rfl hn hp hsome rfl
  rw [List.singleton_append] at hread
  rw [readJob, hread]
  obtain ⟨_ | _, short⟩ := flag <;> rfl

/-- It reads one behind them. -/
theorem Subcommand.readJob_of_flag_last (job : Job) (flag : Flag) (hn : resources ≠ [])
    (hp : ∀ resource ∈ resources, IsPlain resource) :
    readJob job (resources ++ [flag.text]) =
      .ok ⟨flag.more, !flag.more, .reconcile job resources none false, []⟩ := by
  have hclassify : (jobGrammar job).classify (resources ++ [flag.text]) =
      .ok (resources.map Argument.ofPlain ++ [flag.argument]) := by
    rw [Grammar.classify_append hp, Grammar.classify_flag rfl]
    rfl
  have htaken : Reading.takeOperands (jobGrammar job) Except.ok ({} : Reading (List Text))
      (resources.map Argument.ofPlain ++ [flag.argument]) =
      .ok (some ({ operands := some resources }, [flag.argument])) :=
    takeOperands_before_option rfl hn hp rfl rfl rfl
  have hflag : Reading.takeOption (jobGrammar job) { operands := some resources }
      ⟨flag.spec, flag.text, none⟩ [] =
      .ok (.adding { operands := some resources } flag.setting [], []) :=
    Reading.takeOption_flag (fun _ _ => rfl) []
  have hread : (jobGrammar job).read .ok (resources ++ [flag.text]) =
      .ok (.adding { operands := some resources } flag.setting []) := by
    obtain ⟨first, others, rfl⟩ := List.exists_cons_of_ne_nil hn
    rw [Grammar.read, hclassify]
    dsimp only
    rw [List.map_cons, List.cons_append] at htaken ⊢
    rw [Reading.readAll_of_takeOperands rfl htaken, Flag.argument, Reading.readAll_option hflag,
      Reading.readAll]
    rfl
  rw [readJob, hread]
  obtain ⟨_ | _, short⟩ := flag <;> rfl

/-- It reads one on either side of them. -/
theorem Subcommand.readJob_of_flag (job : Job) (flag : Flag) (side : Side) (hn : resources ≠ [])
    (hp : ∀ resource ∈ resources, IsPlain resource) :
    readJob job (flag.beside resources side) =
      .ok ⟨flag.more, !flag.more, .reconcile job resources none false, []⟩ := by
  cases side with
  | front => exact readJob_of_flag_first job flag hn hp
  | back => exact readJob_of_flag_last job flag hn hp

/-! ## The whole command line -/

/-- What a reading in front of the command holds: some wishes and a configuration. -/
structure Holds (reading : Reading Subcommand) (verbose quiet : Bool) (path : Path) : Prop where
  /-- No command was read. -/
  operands : reading.operands = none
  /-- Nothing is left over. -/
  unused : reading.unused = []
  /-- Whether more messages are wished for. -/
  verbose : reading.has .verbose = verbose
  /-- Whether fewer messages are wished for. -/
  quiet : reading.has .quiet = quiet
  /-- The path of the configuration. -/
  path : (reading.value? .config).elim defaultConfig Path.ofText = path

/-- A configuration alone makes no wish. -/
theorem exists_leads_config (ht : config.IsTaken) :
    ∃ reading, mainGrammar.Leads Subcommand.read config.texts {} reading ∧
      Holds reading false false config.path :=
  ⟨config.read {}, leads_config ht {}, by cases config <;> exact ⟨rfl, rfl, rfl, rfl, rfl⟩⟩

/-- A flag on either side of it makes its wish. -/
theorem exists_leads_flag (ht : config.IsTaken) (flag : Flag) (side : Side) :
    ∃ reading, mainGrammar.Leads Subcommand.read (flag.beside config.texts side) {} reading ∧
      Holds reading flag.more (!flag.more) config.path := by
  have hnone : ∀ rival, Reading.rival? flag.setting = some rival →
      (config.read ({} : Reading Subcommand)).has rival = false := by
    intro rival hr
    obtain ⟨_ | _, short⟩ := flag <;> cases hr <;> cases config <;> rfl
  cases side with
  | front =>
    refine ⟨_, (Grammar.leads_first_flag rfl flag).append (leads_config ht _), ?_⟩
    obtain ⟨_ | _, short⟩ := flag <;> cases config <;> exact ⟨rfl, rfl, rfl, rfl, rfl⟩
  | back =>
    refine ⟨_, (leads_config ht {}).append (Grammar.leads_flag rfl hnone), ?_⟩
    obtain ⟨_ | _, short⟩ := flag <;> cases config <;> exact ⟨rfl, rfl, rfl, rfl, rfl⟩

/-- The wishes in front of the command and behind it are put together. -/
theorem Arguments.read_of_holds {reading : Reading Subcommand} {texts : List Text}
    {verbose quiet moreBehind fewerBehind : Bool} {path : Path} {job : Job} {command : Command}
    (hl : mainGrammar.Leads Subcommand.read lead {} reading)
    (hh : Holds reading verbose quiet path)
    (hc : ∃ arguments, mainGrammar.classify texts = .ok arguments)
    (hr : Subcommand.readJob job texts = .ok ⟨moreBehind, fewerBehind, command, []⟩) :
    Arguments.read (lead ++ job.text :: texts) =
      .ok ⟨verbose || moreBehind, quiet || fewerBehind, path, command⟩ := by
  obtain ⟨arguments, hc⟩ := hc
  rw [read_behind hl hh.operands hh.unused hc hr, hh.verbose, hh.quiet, hh.path]

/-- The threshold of the logger when the program ends, if it was configured. -/
def Finish.level? (finish : Finish) : Option Level := finish.log.bind Log.level

/-- A job is looked after with its logger. -/
theorem log_runJob (environment : Environment) (disk : Disk) (log : Log) (path : Path) (job : Job)
    (resources : List Text) (compiled : Option Path) (namedExports : Bool) :
    (runJob environment disk log path job resources compiled namedExports).log = some log := by
  unfold runJob
  dsimp only
  split
  · rfl
  · split
    · split <;> rfl
    · split
      · rfl
      · split <;> rfl

/-- The level of a run is the one of the wishes that are read. -/
theorem level?_of_read {texts : List Text} {verbose quiet namedExports : Bool} {path : Path}
    {job : Job} {compiled : Option Path} (hr : Arguments.read texts =
      .ok ⟨verbose, quiet, path, .reconcile job resources compiled namedExports⟩)
    (environment : Environment) (disk : Disk) :
    (run environment disk texts).level? = some (.ofWishes verbose quiet) := by
  rw [run_of_read hr, Finish.level?, log_runJob]
  rfl

/-- Arguments that are read alike make the same run. -/
theorem run_congr {texts others : List Text} (hr : Arguments.read texts = Arguments.read others)
    (environment : Environment) (disk : Disk) :
    run environment disk texts = run environment disk others := by
  rw [run, run, hr]

/-- A flag has the same effect on either side of the configuration, and on either side of the
resources. -/
theorem Arguments.exists_read_of_flag (job : Job) (hn : resources ≠ [])
    (hp : ∀ resource ∈ resources, IsPlain resource) (config : ConfigChoice) (flag : Flag) :
    ∃ result, (∀ side, Arguments.read (flag.beside config.texts side ++ job.text :: resources) =
        result) ∧
      (∀ side, Arguments.read (config.texts ++ job.text :: flag.beside resources side) = result) ∧
      (config.IsTaken → result = .ok ⟨flag.more, !flag.more, config.path,
        .reconcile job resources none false⟩) := by
  by_cases ht : config.IsTaken
  · refine ⟨_, fun side => ?_, fun side => ?_, fun _ => rfl⟩
    · obtain ⟨reading, hl, hh⟩ := exists_leads_flag ht flag side
      rw [read_of_holds hl hh ⟨_, Grammar.classify_of_isPlain hp⟩
        (Subcommand.readJob_of_isPlain job hn hp), Bool.or_false, Bool.or_false]
    · obtain ⟨reading, hl, hh⟩ := exists_leads_config ht
      rw [read_of_holds hl hh (Grammar.exists_classify_beside rfl flag side hp)
        (Subcommand.readJob_of_flag job flag side hn hp), Bool.false_or, Bool.false_or]
  · cases config with
    | unnamed => exact absurd trivial ht
    | attached value => exact absurd trivial ht
    | apart value =>
      obtain ⟨stop, hstop⟩ := exists_stop_of_value ht
      have hjob := classify_job job (Grammar.classify_of_isPlain hp)
      have hflag := (Grammar.classify_flag rfl flag (job.text :: resources)).trans
        (congrArg _ hjob)
      have hbeside : ∀ side, ∃ arguments,
          mainGrammar.classify (flag.beside resources side) = .ok arguments :=
        fun side => Grammar.exists_classify_beside rfl flag side hp
      refine ⟨.error stop, fun side => ?_, fun side => ?_, fun h => absurd h ht⟩
      · cases side with
        | front => exact hstop (Grammar.leads_first_flag rfl flag) hjob
        | back => exact hstop (Grammar.leads_nil {}) hflag
      · obtain ⟨arguments, hc⟩ := hbeside side
        exact hstop (Grammar.leads_nil {}) (classify_job job hc)

/-- The place of a flag for messages does not matter. Take a command line with a job, a
configuration named in any way or not at all, and resources that do not begin with a hyphen. With a
flag in front of the command, on either side of the configuration, directly behind the command or
behind the last resource, the program ends in the same way: with the same exit code or failure, the
same outputs, the same disk and the same logger, whose threshold is that of the flag, unless the
program stops before it configures the logger because the configuration has no value. With one flag
in front of the command and one behind it, the threshold is the one for more messages if one of them
asks for more, and otherwise the one for fewer. -/
theorem flag_place_irrelevant (environment : Environment) (disk : Disk) (job : Job)
    (hn : resources ≠ []) (hp : ∀ resource ∈ resources, IsPlain resource)
    (config : ConfigChoice) :
    (∀ flag : Flag, ∃ finish,
      (∀ side, run environment disk (flag.beside config.texts side ++ job.text :: resources) =
        finish) ∧
      (∀ side, run environment disk (config.texts ++ job.text :: flag.beside resources side) =
        finish) ∧
      (config.IsTaken → finish.level? = some flag.level)) ∧
    ∀ (first second : Flag) (side other : Side), config.IsTaken →
      (run environment disk
        (first.beside config.texts side ++ job.text :: second.beside resources other)).level? =
          some (if first.more || second.more then .debug else .warning) := by
  refine ⟨fun flag => ?_, fun first second side other ht => ?_⟩
  · obtain ⟨result, hfront, hback, htaken⟩ :=
      Arguments.exists_read_of_flag job hn hp config flag
    refine ⟨run environment disk (flag.beside config.texts .front ++ job.text :: resources),
      fun side => run_congr ((hfront side).trans (hfront .front).symm) environment disk,
      fun side => run_congr ((hback side).trans (hfront .front).symm) environment disk,
      fun ht => ?_⟩
    rw [level?_of_read ((hfront .front).trans (htaken ht))]
    obtain ⟨_ | _, short⟩ := flag <;> rfl
  · obtain ⟨reading, hl, hh⟩ := exists_leads_flag ht first side
    have hread := Arguments.read_of_holds hl hh (Grammar.exists_classify_beside rfl second other hp)
      (Subcommand.readJob_of_flag job second other hn hp)
    rw [level?_of_read hread]
    obtain ⟨_ | _, short⟩ := first <;> obtain ⟨_ | _, otherShort⟩ := second <;> rfl

/-- The value of the configuration begins with a hyphen and is a value all the same, since it is a
number. A flag is moved from the front to the end, and a flag for more messages behind the command
wins over one for fewer in front of it. -/
theorem flag_place_irrelevant_number :
    let environment : Environment := ⟨[], [], none⟩
    let disk : Disk := ⟨[], []⟩
    let value : Text := ['-', '1']
    let verify := Job.verify.text
    let outcome (texts : List Text) : Finish := run environment disk texts
    let resources : List Text := [['a'], ['b']]
    resources ≠ [] ∧ (∀ resource ∈ resources, IsPlain resource) ∧
      (ConfigChoice.apart value).IsTaken ∧
      outcome [Flag.text ⟨true, true⟩, configOption, value, verify, ['a'], ['b']] =
        outcome [configOption, value, verify, ['a'], ['b'], Flag.text ⟨true, true⟩] ∧
      (outcome [configOption, value, Flag.text ⟨false, true⟩, verify, Flag.text ⟨true, false⟩,
        ['a'], ['b']]).level? = some .debug := by
  intro environment disk value verify outcome resources
  have hn : resources ≠ [] := List.cons_ne_nil _ _
  have hp : ∀ resource ∈ resources, IsPlain resource := by decide
  have ht : (ConfigChoice.apart value).IsTaken := rfl
  obtain ⟨hone, htwo⟩ := flag_place_irrelevant environment disk .verify hn hp (.apart value)
  obtain ⟨finish, hfront, hback, -⟩ := hone ⟨true, true⟩
  exact ⟨hn, hp, ht, (hfront .front).trans (hback .back).symm,
    htwo ⟨false, true⟩ ⟨true, false⟩ .back .front ht⟩

end StyleTypings.CommandLine
