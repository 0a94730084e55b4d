import StyleTypings.Proofs.CommandLine.PlainArguments

/-!
# Operands that are read

A command with operands reads at least one. The double hyphen is the only text that is left out of
the operands, and it is left out once: behind a separator, another one is an operand like any
other. So whatever arguments are accepted, a job has resources.
-/

namespace StyleTypings.CommandLine

/-- What arguments look like when they are classified: a double hyphen is a separator, and all that
stands behind it is plain. -/
inductive Classified : List Argument → Prop where
  /-- There may be no arguments. -/
  | nil : Classified []
  /-- Arguments in front of a separator are no double hyphens. -/
  | cons (argument : Argument) (rest : List Argument) (hs : argument.kind ≠ .separator)
    (ht : argument ≠ .ofPlain ['-', '-']) (hr : Classified rest) : Classified (argument :: rest)
  /-- All arguments behind a separator are plain. -/
  | separated (texts : List Text) :
    Classified (⟨['-', '-'], .separator⟩ :: texts.map Argument.ofPlain)

variable {α : Type} {grammar : Grammar} {meaning : List Text → Except Stop α}
  {reading next result : Reading α} {found : Found} {argument : Argument}
  {arguments rest left : List Argument} {texts resources : List Text} {good : α → Prop}

theorem Grammar.kindOf_ne_separator {text : Text} : grammar.kindOf text ≠ .ok .separator := by
  intro hk
  unfold kindOf at hk
  dsimp only at hk
  repeat' split at hk
  all_goals cases hk

/-- What a grammar classifies is classified as it should be. -/
theorem Grammar.classified_of_classify (hc : grammar.classify texts = .ok arguments) :
    Classified arguments := by
  induction texts generalizing arguments with
  | nil =>
    cases hc
    exact .nil
  | cons text texts ih =>
    rw [classify] at hc
    split at hc
    · next ht =>
      cases hc
      rw [ht]
      exact .separated texts
    · next ht =>
      cases hk : grammar.kindOf text with
      | error stop =>
        rw [hk] at hc
        cases hc
      | ok kind =>
        cases hr : grammar.classify texts with
        | error stop =>
          rw [hk, hr] at hc
          cases hc
        | ok rest =>
          rw [hk, hr] at hc
          cases hc
          refine .cons _ _ ?_ ?_ (ih hr)
          · rintro rfl
            exact kindOf_ne_separator hk
          · intro he
            exact ht (congrArg Argument.text he)

namespace Reading

/-- The operands of a run that has any are not empty. -/
theorem withoutSeparator_ne_nil (hc : Classified arguments)
    (hp : (arguments.takeWhile (!·.isOption)).any (·.kind == .plain) = true) :
    withoutSeparator (arguments.takeWhile (!·.isOption)) ≠ [] := by
  cases hc with
  | nil => cases hp
  | cons argument rest hs ht hr =>
    -- The first argument is plain, and it is not the double hyphen that is left out.
    have hplain : argument.isOption = false ∧ argument.kind = .plain := by
      unfold Argument.isOption at hp ⊢
      cases hk : argument.kind with
      | plain => exact ⟨rfl, rfl⟩
      | separator => exact absurd hk hs
      | option found => simp [hk] at hp
    have htext : argument.text ≠ ['-', '-'] := by
      intro he
      refine ht ?_
      rw [Argument.ofPlain, ← he, ← hplain.2]
    have hmem : argument.text ∈ withoutSeparator ((argument :: rest).takeWhile (!·.isOption)) := by
      rw [withoutSeparator, List.mem_erase_of_ne htext,
        List.takeWhile_cons_of_pos (by simp [hplain.1])]
      exact List.mem_cons_self
    exact List.ne_nil_of_mem hmem
  | separated texts =>
    have hrun : (⟨['-', '-'], .separator⟩ :: texts.map Argument.ofPlain).takeWhile (!·.isOption) =
        ⟨['-', '-'], .separator⟩ :: texts.map Argument.ofPlain := by
      rw [List.takeWhile_cons_of_pos rfl, takeWhile_ofPlain]
    rw [hrun] at hp ⊢
    rw [withoutSeparator, List.map_cons, map_text_ofPlain, List.erase_cons_head]
    rintro rfl
    cases hp

/-- To take an option leaves the operands. -/
theorem operands_of_make {spec : Spec} {value : Text}
    (hm : make grammar reading spec value = .ok next) : next.operands = reading.operands := by
  unfold make refuse at hm
  split at hm
  · cases hm
  · split at hm
    · cases hm
    · split at hm
      · cases hm
      · cases hm
        rfl

/-- To take several options leaves the operands. -/
theorem operands_of_makeAll {specs : List Spec} (hm : makeAll grammar reading specs = .ok next) :
    next.operands = reading.operands := by
  induction specs generalizing reading with
  | nil =>
    cases hm
    rfl
  | cons spec specs ih =>
    rw [makeAll] at hm
    cases hone : make grammar reading spec [] with
    | error stop =>
      rw [hone] at hm
      cases hm
    | ok middle =>
      rw [hone] at hm
      exact (ih hm).trans (operands_of_make hone)

theorem eq_of_map_ok {made : Except Stop (Reading α)} {given : List Argument}
    (hm : made.map (·, given) = .ok (next, left)) : made = .ok next ∧ given = left := by
  cases made with
  | error stop => cases hm
  | ok reading =>
    cases hm
    exact ⟨rfl, rfl⟩

/-- An option leaves the operands as they are. Behind it all arguments are left, or all but one
that is plain. -/
theorem takeOption_spec (ht : takeOption grammar reading found rest = .ok (next, left)) :
    next.operands = reading.operands ∧
      (left = rest ∨ ∃ value, rest = .ofPlain value :: left) := by
  unfold takeOption refuse at ht
  dsimp only at ht
  split at ht
  · split at ht
    · obtain ⟨hmade, hleft⟩ := eq_of_map_ok ht
      exact ⟨operands_of_make hmade, Or.inl hleft.symm⟩
    · next value rest _ =>
      obtain ⟨hmade, hleft⟩ := eq_of_map_ok ht
      rw [← hleft]
      exact ⟨operands_of_make hmade, Or.inr ⟨value, rfl⟩⟩
    · cases ht
  · split at ht
    · obtain ⟨hmade, hleft⟩ := eq_of_map_ok ht
      exact ⟨operands_of_make hmade, Or.inl hleft.symm⟩
    · split at ht
      · cases ht
      · split at ht
        · cases ht
        · obtain ⟨hmade, hleft⟩ := eq_of_map_ok ht
          exact ⟨operands_of_makeAll hmade, Or.inl hleft.symm⟩

/-- What is read as operands is what some arguments mean. -/
theorem exists_meaning_of_takeOperands (hc : reading.operands = none → Classified arguments)
    (ht : takeOperands grammar meaning reading arguments = .ok (some (next, left))) :
    ∃ texts value, texts ≠ [] ∧ meaning texts = .ok value ∧ next.operands = some value := by
  unfold takeOperands at ht
  dsimp only at ht
  split at ht
  · cases ht
  · next hrun =>
    rw [Bool.or_eq_true, not_or, Bool.not_eq_true, Bool.not_eq_true, Bool.not_eq_false'] at hrun
    obtain ⟨hnone, hplain⟩ := hrun
    have hclassified := hc (Option.isSome_eq_false_iff.mp hnone |> Option.isNone_iff_eq_none.mp)
    split at ht
    · cases ht
    · cases hm : meaning (withoutSeparator (arguments.takeWhile (!·.isOption))) with
      | error stop =>
        rw [hm] at ht
        cases ht
      | ok value =>
        rw [hm] at ht
        cases ht
        exact ⟨_, value, withoutSeparator_ne_nil hclassified hplain, hm, rfl⟩
    · cases hm : meaning (arguments.map Argument.text) with
      | error stop =>
        rw [hm] at ht
        cases ht
      | ok value =>
        rw [hm] at ht
        cases ht
        refine ⟨_, value, ?_, hm, rfl⟩
        intro hnil
        rw [List.map_eq_nil_iff.mp hnil] at hplain
        cases hplain

/-- Where no operands are read although the command has some, no argument of the run is plain. -/
theorem not_plain_of_takeOperands (ho : grammar.operands ≠ .none) (hn : reading.operands = none)
    (ht : takeOperands grammar meaning reading arguments = .ok none) :
    (arguments.takeWhile (!·.isOption)).any (·.kind == .plain) = false := by
  unfold takeOperands at ht
  dsimp only at ht
  split at ht
  · next hrun =>
    rw [hn, Option.isSome_none, Bool.false_or, Bool.not_eq_true'] at hrun
    exact hrun
  · split at ht
    · next hnone => exact absurd hnone ho
    · cases hm : meaning (withoutSeparator (arguments.takeWhile (!·.isOption))) <;>
        rw [hm] at ht <;> cases ht
    · cases hm : meaning (arguments.map Argument.text) <;> rw [hm] at ht <;> cases ht

/-- All that is read as operands is good, if the meaning of any operands at all is. -/
theorem readAll_operands (ho : grammar.operands ≠ .none)
    (hm : ∀ texts value, texts ≠ [] → meaning texts = .ok value → good value)
    (hr : readAll grammar meaning reading arguments = .ok result)
    (hc : reading.operands = none → Classified arguments)
    (hg : ∀ value, reading.operands = some value → good value) :
    ∀ value, result.operands = some value → good value := by
  induction reading, arguments using readAll.induct grammar meaning with
  | case1 reading =>
    rw [readAll] at hr
    cases hr
    exact hg
  | case2 reading text rest ih =>
    rw [readAll] at hr
    refine ih hr (fun hn => ?_) hg
    cases hc hn with
    | cons _ _ _ _ hrest => exact hrest
  | case3 reading text found rest stop ht =>
    rw [readAll] at hr
    split at hr
    · cases hr
    · next htaken => cases ht.symm.trans htaken
  | case4 reading text found rest next left ht _ ih =>
    rw [readAll_option ht] at hr
    obtain ⟨hsame, hleft⟩ := takeOption_spec ht
    refine ih hr (fun hn => ?_) fun value hv => hg value (hsame ▸ hv)
    cases hc (hsame ▸ hn) with
    | cons _ _ _ _ hrest =>
      rcases hleft with rfl | ⟨value, rfl⟩
      · exact hrest
      · cases hrest with
        | cons _ _ _ _ hleft => exact hleft
  | case5 reading argument rest hn hs stop ht =>
    rw [readAll] at hr
    · split at hr
      · cases hr
      · next htaken => cases ht.symm.trans htaken
      · next htaken => cases ht.symm.trans htaken
    · exact hn
    · exact hs
  | case6 reading argument rest hn hs next left ht _ ih =>
    rw [readAll] at hr
    · split at hr
      · cases hr
      · next htaken =>
        cases ht.symm.trans htaken
        obtain ⟨texts, value, hne, hmeaning, hnext⟩ := exists_meaning_of_takeOperands hc ht
        refine ih hr (fun hnone => absurd (hnext.symm.trans hnone) (Option.some_ne_none value))
          fun other ho => ?_
        cases hnext.symm.trans ho
        exact hm texts value hne hmeaning
      · next htaken => cases ht.symm.trans htaken
    · exact hn
    · exact hs
  | case7 reading argument rest hn hs ht ih =>
    rw [readAll] at hr
    · split at hr
      · cases hr
      · next htaken => cases ht.symm.trans htaken
      · refine ih hr (fun hnone => ?_) hg
        have hbefore : reading.operands = none := hnone
        have hplain := not_plain_of_takeOperands ho hbefore ht
        cases hc hbefore with
        | cons _ _ _ _ hrest => exact hrest
        | separated texts =>
          cases texts with
          | nil => exact .nil
          | cons text texts => cases hplain
    · exact hn
    · exact hs

end Reading

/-- A command with operands reads some that are good. -/
theorem Grammar.exists_operands_of_read (good : α → Prop) (ho : grammar.operands ≠ .none)
    (hm : ∀ texts value, texts ≠ [] → meaning texts = .ok value → good value)
    (hr : grammar.read meaning texts = .ok reading) :
    ∃ value, reading.operands = some value ∧ good value := by
  unfold read at hr
  cases hc : grammar.classify texts with
  | error stop =>
    rw [hc] at hr
    cases hr
  | ok arguments =>
    rw [hc] at hr
    dsimp only at hr
    cases hall : Reading.readAll grammar meaning {} arguments with
    | error stop =>
      rw [hall] at hr
      cases hr
    | ok all =>
      rw [hall] at hr
      dsimp only at hr
      split at hr
      · cases hr
      · next hmissing =>
        cases hr
        have hgood := Reading.readAll_operands ho hm hall (fun _ => classified_of_classify hc)
          fun value hv => nomatch hv
        cases hv : reading.operands with
        | some value => exact ⟨value, rfl, hgood value hv⟩
        | none =>
          unfold Reading.missing? at hmissing
          rw [hv] at hmissing
          cases hgrammar : grammar.operands with
          | none => exact absurd hgrammar ho
          | _ =>
            rw [hgrammar] at hmissing
            cases hmissing

/-- It looks after some resource, if it looks after resources. -/
def Command.HasResources (command : Command) : Prop :=
  ∀ job resources compiled namedExports,
    command = .reconcile job resources compiled namedExports → resources ≠ []

/-- A job that is read has resources. -/
theorem Subcommand.hasResources_of_readJob {job : Job} {sub : Subcommand}
    (hr : readJob job texts = .ok sub) : sub.command.HasResources := by
  unfold readJob at hr
  cases hread : (jobGrammar job).read .ok texts with
  | error stop =>
    rw [hread] at hr
    cases hr
  | ok reading =>
    rw [hread] at hr
    cases hr
    have hsome : (jobGrammar job).operands ≠ .none := fun ho => nomatch ho
    obtain ⟨operands, hoperands, hne⟩ := Grammar.exists_operands_of_read (· ≠ []) hsome
      (fun texts value hn hv => Except.ok.inj hv ▸ hn) hread
    rintro _ _ _ _ ⟨⟩
    rw [hoperands]
    exact hne

/-- So has a command of that kind that is read. -/
theorem Subcommand.hasResources_of_read {sub : Subcommand} (hr : read texts = .ok sub) :
    sub.command.HasResources := by
  cases texts with
  | nil => cases hr
  | cons name texts =>
    rw [read] at hr
    split at hr
    · exact hasResources_of_readJob hr
    · split at hr
      · exact hasResources_of_readJob hr
      · split at hr
        · exact hasResources_of_readJob hr
        · split at hr
          · unfold readServe at hr
            split at hr
            · cases hr
            · cases hr
              rintro _ _ _ _ ⟨⟩
          · cases hr

/-- Whatever arguments are accepted, a job has resources. -/
theorem Arguments.resources_ne_nil {verbose quiet namedExports : Bool} {path : Path} {job : Job}
    {compiled : Option Path} (hr : Arguments.read texts =
      .ok ⟨verbose, quiet, path, .reconcile job resources compiled namedExports⟩) :
    resources ≠ [] := by
  unfold Arguments.read at hr
  cases hread : mainGrammar.read Subcommand.read texts with
  | error stop =>
    rw [hread] at hr
    cases hr
  | ok reading =>
    rw [hread] at hr
    have hcommand : mainGrammar.operands ≠ .none := fun ho => nomatch ho
    obtain ⟨sub, hsub, hhas⟩ := Grammar.exists_operands_of_read
      (fun sub : Subcommand => sub.command.HasResources) hcommand
      (fun texts sub _ hs => Subcommand.hasResources_of_read hs) hread
    dsimp only at hr
    rw [hsub] at hr
    dsimp only at hr
    split at hr
    · exact hhas _ _ _ _ (Arguments.mk.inj (Except.ok.inj hr)).2.2.2
    · cases hr

end StyleTypings.CommandLine
