import StyleTypings.CommandLine.Arguments

/-!
# Arguments without a hyphen

Arguments that do not begin with a hyphen are operands, whatever the grammar. So a word for a job
and resources behind it ask for that job on those resources, with everything else as it is unless
something is said about it. So does one with a compiled module named in front of the resources.
-/

namespace StyleTypings.CommandLine

/-- It does not begin with a hyphen. -/
def IsPlain (text : Text) : Prop := text.head? ≠ some (.char '-')

instance (text : Text) : Decidable (IsPlain text) :=
  inferInstanceAs (Decidable (text.head? ≠ some (.char '-')))

/-- An argument that is an operand. -/
def Argument.ofPlain (text : Text) : Argument := ⟨text, .plain⟩

variable {α : Type} {grammar : Grammar} {meaning : List Text → Except Stop α} {text : Text}
  {texts resources : List Text} {read : α} {reading next : Reading α}

/-- A plain text is no option. -/
theorem Grammar.kindOf_of_isPlain (hp : IsPlain text) : grammar.kindOf text = .ok .plain := by
  unfold kindOf
  split
  · rfl
  · rfl
  · exact absurd rfl hp
  · rfl

/-- In front of a separator, each argument is told apart by itself. -/
theorem Grammar.classify_cons {kind : Kind} (hk : grammar.kindOf text = .ok kind)
    (ht : text ≠ ['-', '-']) (texts : List Text) :
    grammar.classify (text :: texts) = (grammar.classify texts).map (⟨text, kind⟩ :: ·) := by
  rw [classify, if_neg ht, hk]
  cases grammar.classify texts <;> rfl

/-- Telling arguments apart keeps their texts. -/
theorem Grammar.map_text_of_classify {arguments : List Argument}
    (hc : grammar.classify texts = .ok arguments) : arguments.map Argument.text = texts := by
  induction texts generalizing arguments with
  | nil =>
    cases hc
    rfl
  | cons text texts ih =>
    rw [classify] at hc
    split at hc
    · cases hc
      rw [List.map_cons, List.map_map]
      exact congrArg (text :: ·) (List.map_id texts)
    · split at hc
      · cases hc
      · split at hc
        · cases hc
        · next hr =>
          cases hc
          rw [List.map_cons, ih hr]

/-- Plain arguments are told apart from whatever stands behind them. -/
theorem Grammar.classify_append (hp : ∀ text ∈ texts, IsPlain text) (others : List Text) :
    grammar.classify (texts ++ others) =
      (grammar.classify others).map (texts.map Argument.ofPlain ++ ·) := by
  induction texts with
  | nil =>
    rw [List.nil_append]
    cases grammar.classify others <;> rfl
  | cons text texts ih =>
    obtain ⟨htext, htexts⟩ := List.forall_mem_cons.mp hp
    have hseparator : text ≠ ['-', '-'] := by
      rintro rfl
      exact htext rfl
    rw [List.cons_append, classify_cons (kindOf_of_isPlain htext) hseparator, ih htexts]
    cases grammar.classify others <;> rfl

/-- Plain texts are classified one by one, as what they are. -/
theorem Grammar.classify_of_isPlain (hp : ∀ text ∈ texts, IsPlain text) :
    grammar.classify texts = .ok (texts.map Argument.ofPlain) := by
  have happend : grammar.classify (texts ++ []) =
      .ok (texts.map Argument.ofPlain ++ []) := classify_append hp []
  rwa [List.append_nil, List.append_nil] at happend

/-- All operands are one run. -/
theorem takeWhile_ofPlain (texts : List Text) :
    (texts.map Argument.ofPlain).takeWhile (!·.isOption) = texts.map Argument.ofPlain := by
  induction texts with
  | nil => rfl
  | cons text texts ih => rw [List.map_cons, List.takeWhile_cons_of_pos rfl, ih]

/-- Nothing is left behind them. -/
theorem dropWhile_ofPlain (texts : List Text) :
    (texts.map Argument.ofPlain).dropWhile (!·.isOption) = [] := by
  induction texts with
  | nil => rfl
  | cons text texts ih => rw [List.map_cons, List.dropWhile_cons_of_pos rfl, ih]

/-- Among plain arguments a plain one is found. -/
theorem any_plain_ofPlain (hn : texts ≠ []) :
    (texts.map Argument.ofPlain).any (·.kind == .plain) = true := by
  obtain ⟨first, rest, rfl⟩ := List.exists_cons_of_ne_nil hn
  rfl

/-- Plain arguments have the texts they were made of. -/
theorem map_text_ofPlain (texts : List Text) :
    (texts.map Argument.ofPlain).map Argument.text = texts := by
  rw [List.map_map]
  exact List.map_id texts

theorem withoutSeparator_ofPlain (hp : ∀ text ∈ texts, IsPlain text) :
    Reading.withoutSeparator (texts.map Argument.ofPlain) = texts := by
  rw [Reading.withoutSeparator, map_text_ofPlain]
  exact List.erase_of_not_mem fun hs => hp _ hs rfl

/-- A command that has operands and has not read any takes all of them. -/
theorem takeOperands_ofPlain (hnone : reading.operands = none) (hn : texts ≠ [])
    (hp : ∀ text ∈ texts, IsPlain text) (ho : grammar.operands ≠ .none)
    (hm : meaning texts = .ok read) :
    Reading.takeOperands grammar meaning reading (texts.map Argument.ofPlain) =
      .ok (some ({ reading with operands := some read }, [])) := by
  unfold Reading.takeOperands
  simp only [takeWhile_ofPlain, dropWhile_ofPlain, withoutSeparator_ofPlain hp, map_text_ofPlain,
    any_plain_ofPlain hn, hm, hnone, Option.isSome_none, Bool.not_true, Bool.or_self,
    Bool.false_eq_true, if_false]
  split
  · next hnone => exact absurd hnone ho
  · rfl
  · rfl

/-- A command that takes operands alone leaves an option behind them. -/
theorem takeOperands_before_option {title : Text} {option : Argument} {rest : List Argument}
    (hnone : reading.operands = none) (hn : texts ≠ []) (hp : ∀ text ∈ texts, IsPlain text)
    (ho : grammar.operands = .some title) (hm : meaning texts = .ok read)
    (hoption : option.isOption = true) :
    Reading.takeOperands grammar meaning reading (texts.map Argument.ofPlain ++ option :: rest) =
      .ok (some ({ reading with operands := some read }, option :: rest)) := by
  have hplain : ∀ argument ∈ texts.map Argument.ofPlain, (!argument.isOption) = true := by
    intro argument ha
    obtain ⟨text, -, rfl⟩ := List.mem_map.mp ha
    rfl
  have hrun : (texts.map Argument.ofPlain ++ option :: rest).takeWhile (!·.isOption) =
      texts.map Argument.ofPlain := by
    rw [List.takeWhile_append_of_pos hplain, List.takeWhile_cons_of_neg (by simp [hoption]),
      List.append_nil]
  have hleft : (texts.map Argument.ofPlain ++ option :: rest).dropWhile (!·.isOption) =
      option :: rest := by
    rw [List.dropWhile_append_of_pos hplain, List.dropWhile_cons_of_neg (by simp [hoption])]
  unfold Reading.takeOperands
  simp only [hrun, hleft, withoutSeparator_ofPlain hp, any_plain_ofPlain hn, hm, hnone, ho,
    Option.isSome_none, Bool.not_true, Bool.or_self, Bool.false_eq_true, if_false]
  rfl

namespace Reading

/-- Reading goes on behind an option that was taken. -/
theorem readAll_option {found : Found} {rest left : List Argument}
    (ht : takeOption grammar reading found rest = .ok (next, left)) :
    readAll grammar meaning reading (⟨text, .option (some found)⟩ :: rest) =
      readAll grammar meaning next left := by
  rw [readAll]
  split
  · next hf => cases ht.symm.trans hf
  · next hf =>
    cases ht.symm.trans hf
    rfl

/-- It goes on behind operands that were taken. -/
theorem readAll_of_takeOperands {argument : Argument} {rest left : List Argument}
    (hk : argument.kind = .plain)
    (ht : takeOperands grammar meaning reading (argument :: rest) = .ok (some (next, left))) :
    readAll grammar meaning reading (argument :: rest) = readAll grammar meaning next left := by
  obtain ⟨text, kind⟩ := argument
  cases (hk : kind = .plain)
  rw [readAll]
  · split
    · next hf => cases ht.symm.trans hf
    · next hf =>
      cases ht.symm.trans hf
      rfl
    · next hf => cases ht.symm.trans hf
  · intro _ hk
    cases hk
  · intro _ _ hk
    cases hk

/-- Operands that are plain are read to the end. -/
theorem readAll_ofPlain (hnone : reading.operands = none) (hn : texts ≠ [])
    (hp : ∀ text ∈ texts, IsPlain text) (ho : grammar.operands ≠ .none)
    (hm : meaning texts = .ok read) :
    readAll grammar meaning reading (texts.map Argument.ofPlain) =
      .ok { reading with operands := some read } := by
  have htaken := takeOperands_ofPlain hnone hn hp ho hm
  obtain ⟨first, rest, rfl⟩ := List.exists_cons_of_ne_nil hn
  rw [List.map_cons] at htaken ⊢
  rw [readAll_of_takeOperands rfl htaken, readAll]

/-- With operands, none are missing. -/
theorem missing?_of_operands (hs : reading.operands = some read) :
    missing? grammar reading = none := by
  unfold missing?
  rw [hs]
  cases grammar.operands <;> rfl

end Reading

/-! ## Options in front of other arguments -/

/-- Texts are read as options, whatever stands behind them: they are told apart from it, and reading
goes on behind them. -/
def Grammar.Leads (grammar : Grammar) (meaning : List Text → Except Stop α) (lead : List Text)
    (reading next : Reading α) : Prop :=
  ∃ options,
    (∀ texts, grammar.classify (lead ++ texts) = (grammar.classify texts).map (options ++ ·)) ∧
    ∀ rest, Reading.readAll grammar meaning reading (options ++ rest) =
      Reading.readAll grammar meaning next rest

namespace Grammar

/-- No texts lead nowhere. -/
theorem leads_nil (reading : Reading α) : grammar.Leads meaning [] reading reading := by
  refine ⟨[], fun texts => ?_, fun rest => rfl⟩
  rw [List.nil_append]
  cases grammar.classify texts <;> rfl

/-- What two lists of texts lead through, they lead through one behind the other. -/
theorem Leads.append {first second : List Text} {middle : Reading α}
    (hf : grammar.Leads meaning first reading middle)
    (hs : grammar.Leads meaning second middle next) :
    grammar.Leads meaning (first ++ second) reading next := by
  obtain ⟨options, hclassify, hread⟩ := hf
  obtain ⟨others, hclassifyOthers, hreadOthers⟩ := hs
  refine ⟨options ++ others, fun texts => ?_, fun rest => ?_⟩
  · rw [List.append_assoc, hclassify, hclassifyOthers]
    cases grammar.classify texts with
    | error stop => rfl
    | ok rest => exact congrArg Except.ok (List.append_assoc _ _ _).symm
  · rw [List.append_assoc, hread, hreadOthers]

/-- An option that needs nothing behind it. -/
theorem leads_option {found : Found} (hk : grammar.kindOf text = .ok (.option (some found)))
    (ht : text ≠ ['-', '-'])
    (hr : ∀ rest, Reading.takeOption grammar reading found rest = .ok (next, rest)) :
    grammar.Leads meaning [text] reading next :=
  ⟨[⟨text, .option (some found)⟩], classify_cons hk ht,
    fun rest => Reading.readAll_option (hr rest)⟩

/-- An option with its value behind it. -/
theorem leads_option_value {found : Found} {value : Text}
    (hk : grammar.kindOf text = .ok (.option (some found))) (ht : text ≠ ['-', '-'])
    (hv : grammar.kindOf value = .ok .plain) (hvalue : value ≠ ['-', '-'])
    (hr : ∀ rest, Reading.takeOption grammar reading found (.ofPlain value :: rest) =
      .ok (next, rest)) : grammar.Leads meaning [text, value] reading next := by
  refine ⟨[⟨text, .option (some found)⟩, .ofPlain value], fun texts => ?_, fun rest => ?_⟩
  · rw [List.cons_append, List.singleton_append, classify_cons hk ht, classify_cons hv hvalue]
    cases grammar.classify texts <;> rfl
  · exact Reading.readAll_option (hr rest)

/-- Options and plain arguments behind them. -/
theorem Leads.read_of_isPlain {lead : List Text} (hl : grammar.Leads meaning lead {} reading)
    (hnone : reading.operands = none) (hn : texts ≠ []) (hp : ∀ text ∈ texts, IsPlain text)
    (ho : grammar.operands ≠ .none) (hm : meaning texts = .ok read) :
    grammar.read meaning (lead ++ texts) = .ok { reading with operands := some read } := by
  obtain ⟨options, hclassify, hread⟩ := hl
  rw [Grammar.read, hclassify, classify_of_isPlain hp]
  dsimp only [Except.map]
  rw [hread, Reading.readAll_ofPlain hnone hn hp ho hm]
  dsimp only
  rw [Reading.missing?_of_operands rfl]

end Grammar

/-! ## Jobs -/

/-- The word for a job is followed by what the job reads. -/
theorem Subcommand.read_job (job : Job) (texts : List Text) :
    Subcommand.read (job.text :: texts) = readJob job texts := by
  rw [Subcommand.read]
  cases job with
  | emit => rw [if_pos rfl]
  | verify => rw [if_neg (by decide), if_pos rfl]
  | reconcile => rw [if_neg (by decide), if_neg (by decide), if_pos rfl]

theorem Job.isPlain_text (job : Job) : IsPlain job.text := by cases job <;> decide

/-- The name of a job is a plain argument in front of the others. -/
theorem classify_job (job : Job) {arguments : List Argument}
    (hc : mainGrammar.classify texts = .ok arguments) :
    mainGrammar.classify (job.text :: texts) = .ok (.ofPlain job.text :: arguments) := by
  have hseparator : job.text ≠ ['-', '-'] := by cases job <;> decide
  rw [Grammar.classify_cons (Grammar.kindOf_of_isPlain job.isPlain_text) hseparator, hc]
  rfl

/-- Behind options, the word for a job hands all further arguments to the job, also those that the
program takes for options it does not have. -/
theorem Arguments.read_behind {job : Job} {lead : List Text} {arguments : List Argument}
    {reading : Reading Subcommand} {verbose quiet : Bool} {command : Command}
    (hl : mainGrammar.Leads Subcommand.read lead {} reading) (ho : reading.operands = none)
    (hu : reading.unused = []) (hc : mainGrammar.classify texts = .ok arguments)
    (hr : Subcommand.readJob job texts = .ok ⟨verbose, quiet, command, []⟩) :
    Arguments.read (lead ++ job.text :: texts) =
      .ok ⟨reading.has .verbose || verbose, reading.has .quiet || quiet,
        (reading.value? .config).elim defaultConfig Path.ofText, command⟩ := by
  have htaken : Reading.takeOperands mainGrammar Subcommand.read reading
      (.ofPlain job.text :: arguments) =
      .ok (some ({ reading with operands := some ⟨verbose, quiet, command, []⟩ }, [])) := by
    have hmeaning : Subcommand.read ((Argument.ofPlain job.text :: arguments).map Argument.text) =
        .ok ⟨verbose, quiet, command, []⟩ := by
      rw [List.map_cons, Grammar.map_text_of_classify hc]
      exact (Subcommand.read_job job texts).trans hr
    have hany : ((Argument.ofPlain job.text :: arguments).takeWhile (!·.isOption)).any
        (·.kind == .plain) = true := by
      rw [List.takeWhile_cons_of_pos rfl]
      rfl
    unfold Reading.takeOperands
    simp only [hany, ho, Option.isSome_none, Bool.not_true, Bool.or_self, Bool.false_eq_true,
      if_false]
    rw [show mainGrammar.operands = .command "command".toText from rfl]
    dsimp only
    rw [hmeaning]
    rfl
  have hread : mainGrammar.read Subcommand.read (lead ++ job.text :: texts) =
      .ok { reading with operands := some ⟨verbose, quiet, command, []⟩ } := by
    obtain ⟨options, hclassify, hreadAll⟩ := hl
    rw [Grammar.read, hclassify, classify_job job hc]
    dsimp only [Except.map]
    rw [hreadAll, Reading.readAll_of_takeOperands rfl htaken, Reading.readAll]
    dsimp only
    rw [Reading.missing?_of_operands rfl]
  rw [Arguments.read, hread]
  simp [Reading.has, Reading.value?, hu]

/-- With the word for a job in front, all arguments are handed to the job. -/
theorem Arguments.read_job {job : Job} {arguments : List Argument} {verbose quiet : Bool}
    {command : Command} (hc : mainGrammar.classify texts = .ok arguments)
    (hr : Subcommand.readJob job texts = .ok ⟨verbose, quiet, command, []⟩) :
    Arguments.read (job.text :: texts) = .ok ⟨verbose, quiet, defaultConfig, command⟩ :=
  Arguments.read_behind (Grammar.leads_nil {}) rfl rfl hc hr

/-- A job with plain resources is read with the flag off and no compiled module named. -/
theorem Subcommand.readJob_of_isPlain (job : Job) (hn : resources ≠ [])
    (hp : ∀ resource ∈ resources, IsPlain resource) :
    readJob job resources = .ok ⟨false, false, .reconcile job resources none false, []⟩ := by
  have hsome : (jobGrammar job).operands ≠ .none := by
    intro ho
    cases ho
  have hread : (jobGrammar job).read .ok resources = .ok { operands := some resources } :=
    (Grammar.leads_nil {}).read_of_isPlain rfl hn hp hsome rfl
  rw [readJob, hread]
  rfl

/-- A word for a job with resources behind it asks for that job on those resources. -/
theorem Arguments.read_of_isPlain (job : Job) (hn : resources ≠ [])
    (hp : ∀ resource ∈ resources, IsPlain resource) :
    Arguments.read (job.text :: resources) =
      .ok ⟨false, false, defaultConfig, .reconcile job resources none false⟩ :=
  Arguments.read_job (Grammar.classify_of_isPlain hp) (Subcommand.readJob_of_isPlain job hn hp)

/-! ## A compiled module that is named -/

/-- The option that names the compiled module. -/
def compiledOption : Text := "--compiled".toText

/-- It is an option of every job, and none of the program. -/
theorem Grammar.kindOf_compiledOption (job : Job) :
    (jobGrammar job).kindOf compiledOption =
        .ok (.option (some ⟨⟨.compiled, [compiledOption], true⟩, compiledOption, none⟩)) ∧
      mainGrammar.kindOf compiledOption = .ok (.option none) := by
  cases job <;> exact ⟨rfl, rfl⟩

/-- So it is with a compiled module named in front. -/
theorem Subcommand.readJob_of_compiled (job : Job) {file : Text} (hf : IsPlain file)
    (hn : resources ≠ []) (hp : ∀ resource ∈ resources, IsPlain resource) :
    readJob job (compiledOption :: file :: resources) =
      .ok ⟨false, false, .reconcile job resources (some (Path.ofText file)) false, []⟩ := by
  have hsome : (jobGrammar job).operands ≠ .none := by
    intro ho
    cases ho
  have hlead : (jobGrammar job).Leads Except.ok [compiledOption, file] {}
      { settings := [(.compiled, file)] } := by
    have hseparator : file ≠ ['-', '-'] := by
      rintro rfl
      exact hf rfl
    exact Grammar.leads_option_value (Grammar.kindOf_compiledOption job).1 (by decide)
      (Grammar.kindOf_of_isPlain hf) hseparator fun rest => rfl
  have hread : (jobGrammar job).read .ok (compiledOption :: file :: resources) =
      .ok { settings := [(.compiled, file)], operands := some resources } :=
    hlead.read_of_isPlain rfl hn hp hsome rfl
  rw [readJob, hread]
  rfl

/-- A word for a job, a compiled module that is named and resources ask for that job on those
resources with that module. -/
theorem Arguments.read_of_compiled (job : Job) {file : Text} (hf : IsPlain file)
    (hn : resources ≠ []) (hp : ∀ resource ∈ resources, IsPlain resource) :
    Arguments.read (job.text :: compiledOption :: file :: resources) =
      .ok ⟨false, false, defaultConfig,
        .reconcile job resources (some (Path.ofText file)) false⟩ := by
  have hclassify : mainGrammar.classify (compiledOption :: file :: resources) =
      .ok (⟨compiledOption, .option none⟩ :: (file :: resources).map Argument.ofPlain) := by
    rw [Grammar.classify, if_neg (by decide), (Grammar.kindOf_compiledOption job).2,
      Grammar.classify_of_isPlain (List.forall_mem_cons.mpr ⟨hf, hp⟩)]
  exact Arguments.read_job hclassify (Subcommand.readJob_of_compiled job hf hn hp)

end StyleTypings.CommandLine
