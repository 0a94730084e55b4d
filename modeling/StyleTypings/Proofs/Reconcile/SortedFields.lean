import StyleTypings.Proofs.Keys.Patterns
import StyleTypings.Proofs.Reconcile.Accesses
import StyleTypings.Proofs.Reconcile.ExportShape

/-!
# Sorted fields, each once

The keys of a plan are those that the strategies find, in strictly ascending order of their code
points. The document that is expected has one field for each of them in this order; sorting them
once more changes nothing. So two modules with the same set of keys are the same for everything
that is done with them on any disk, whatever their order, their repetitions and the strategies
that find them. The remark that names the strategy is the only one in which they can differ.
-/

namespace StyleTypings

variable {c d : CodePoint} {a b : Text} {keys others : List Text} {request : Request} {plan : Plan}
  {disk : Disk} {outcome : Outcome} {content : Text} {strategies : List Strategy}

/-! ## Code points -/

/-- The codes of the first text come first in the order of lists of numbers. -/
def Text.CodesBefore (first second : Text) : Prop :=
  first.map CodePoint.toNat < second.map CodePoint.toNat

/-- A code point is known by its number. -/
theorem CodePoint.toNat_inj : c.toNat = d.toNat ↔ c = d :=
  ⟨CodePoint.eq_of_toNat_eq, congrArg CodePoint.toNat⟩

/-- Texts are ordered by their code points. -/
theorem Text.lt_iff_codesBefore : a < b ↔ a.CodesBefore b := by
  unfold Text.CodesBefore
  induction a generalizing b with
  | nil =>
    cases b with
    | nil => exact iff_of_false (List.not_lt_nil _) (List.not_lt_nil _)
    | cons d b => exact iff_of_true (List.nil_lt_cons d b) (List.nil_lt_cons _ _)
  | cons c a ih =>
    cases b with
    | nil => exact iff_of_false (List.not_lt_nil _) (List.not_lt_nil _)
    | cons d b =>
      rw [List.map_cons, List.map_cons, List.cons_lt_cons_iff, List.cons_lt_cons_iff, ih,
        CodePoint.toNat_inj]
      exact Iff.rfl

/-! ## Documents -/

namespace Declaration

/-- The document with one field for each key, in the order in which the keys are given. -/
def renderInOrder (keys : List Text) (namedExports : Bool) : Text :=
  banner ++ .char '\n' :: ("interface CssExports \x7b\n".toText ++
    Text.join ['\n'] (keys.map field) ++ "\n\x7d".toText) ++ .char '\n' :: exportBlock namedExports

theorem sortKeys_of_ascending (hk : keys.Pairwise (· < ·)) : sortKeys keys = keys :=
  List.mergeSort_of_pairwise (hk.imp fun {a b} hab => by
    have hnot : ¬b < a := List.lt_asymm hab
    simpa using hnot)

/-- Keys that are sorted already are rendered in the order in which they are given. -/
theorem render_of_ascending (hk : keys.Pairwise (· < ·)) (namedExports : Bool) :
    render keys namedExports = renderInOrder keys namedExports := by
  unfold render renderInterface renderInOrder
  rw [sortKeys_of_ascending hk]

end Declaration

/-- The plan is to declare the keys that were found. -/
structure Plan.Declares (plan : Plan) (found : List Text) (namedExports : Bool) : Prop where
  /-- Its keys stand in strictly ascending order of their code points. -/
  ascending : plan.keys.Pairwise Text.CodesBefore
  /-- They are the keys that were found. -/
  members : ∀ key, key ∈ plan.keys ↔ key ∈ found
  /-- Sorting them once more changes nothing. -/
  sorted : Declaration.sortKeys plan.keys = plan.keys
  /-- The expected text has one field for each of them in this order. -/
  expected : plan.expected = Declaration.renderInOrder plan.keys namedExports

/-- The plan of a request whose mode and resource are in order is to declare the keys found. -/
theorem Request.exists_plan_declares {mode : Mode} {declaration : Path}
    (hm : request.options.mode = mode.text)
    (hd : (Path.ofText request.resource).declaration? = some declaration)
    (hf : Extraction.Finds request.strategies request.content keys) :
    ∃ plan, request.plan = .ok plan ∧ plan.mode = mode ∧ plan.declaration = declaration ∧
      plan.Declares keys request.options.namedExports := by
  obtain ⟨strategy, hp⟩ := Request.plan_of_finds hm hd hf
  have hascending := collectKeys_ascending keys
  refine ⟨_, hp, rfl, rfl, ?_, fun key => mem_collectKeys, ?_, ?_⟩
  · exact hascending.imp fun {a b} hab => Text.lt_iff_codesBefore.mp hab
  · exact Declaration.sortKeys_of_ascending hascending
  · exact Declaration.render_of_ascending hascending _

/-- A plan is to declare what its strategies find. -/
theorem Request.plan_declares (hp : request.plan = .ok plan) :
    ∃ found, Extraction.Finds request.strategies request.content found ∧
      plan.Declares found request.options.namedExports := by
  obtain ⟨hm, hd, report, hs, -⟩ := Request.plan_eq_ok_iff.mp hp
  have hf : Extraction.Finds request.strategies request.content report.keys.toList :=
    ⟨report, hs, rfl⟩
  obtain ⟨other, hother, -, -, hdeclares⟩ := Request.exists_plan_declares hm hd hf
  have he : other = plan := Except.ok.inj (hother.symm.trans hp)
  exact ⟨_, hf, he ▸ hdeclares⟩

/-- An outcome reports the keys of the plan, and what was written is the expected text. -/
theorem exists_plan_of_outcome (ho : (reconcile disk request).result = .ok outcome) :
    ∃ plan, request.plan = .ok plan ∧ outcome.declaration = plan.declaration ∧
      outcome.keys = plan.keys ∧
      (outcome.written = true → readDeclaration (reconcile disk request).disk {}
        outcome.declaration = .ok plan.expected) := by
  obtain ⟨plan, written, hp, hr, rfl⟩ := reconcile_eq_ok_iff.mp ho
  refine ⟨plan, hp, rfl, rfl, fun hw => ?_⟩
  have hwritten : written = true := hw
  rw [(reconcile_of_plan disk hp).2.1]
  obtain ⟨_, -, hf, -⟩ | ⟨_, hf, -⟩ | ⟨-, hf, -⟩ | ⟨-, hwrite⟩ :=
    plan.carryOut_cases disk request.faults
  · rw [hf] at hr
    cases hr
  · rw [hf] at hr
    cases hr
  · rw [hf, hwritten] at hr
    cases hr
  · exact readDeclaration_write hwrite

/-! ## Modules with the same keys -/

/-- The request for another module, read with other strategies. -/
def Request.forModule (request : Request) (content : Text) (strategies : List Strategy) : Request :=
  { request with content := content, strategies := strategies }

/-- Carrying a plan out does not depend on the strategy that found the keys. -/
theorem Plan.carryOut_strategy (plan : Plan) (strategy : Text) (disk : Disk) (faults : Faults) :
    ({ plan with strategy := strategy } : Plan).carryOut disk faults = plan.carryOut disk faults :=
  rfl

/-- The plans for two modules with the same set of keys differ in the strategy only. -/
theorem Request.plan_forModule
    (hf : Extraction.Finds request.strategies request.content keys)
    (ho : Extraction.Finds strategies content others) (hk : ∀ key, key ∈ keys ↔ key ∈ others) :
    ∃ strategy, (request.forModule content strategies).plan =
      request.plan.map fun plan => { plan with strategy := strategy } := by
  obtain ⟨report, hs, rfl⟩ := hf
  obtain ⟨other, hother, rfl⟩ := ho
  have hsame : collectKeys other.keys.toList = collectKeys report.keys.toList := by
    refine eq_of_ascending (collectKeys_ascending _) (collectKeys_ascending _) fun key => ?_
    rw [mem_collectKeys, mem_collectKeys, hk]
  refine ⟨other.strategy, ?_⟩
  simp only [Request.plan, Request.forModule, hs, hother, hsame]
  cases Mode.ofText? request.options.mode with
  | none => rfl
  | some mode =>
    cases (Path.ofText request.resource).declaration? with
    | none => rfl
    | some declaration => rfl

/-- Two modules with the same set of keys fare alike on every disk. -/
theorem reconcile_forModule (disk : Disk)
    (hf : Extraction.Finds request.strategies request.content keys)
    (ho : Extraction.Finds strategies content others) (hk : ∀ key, key ∈ keys ↔ key ∈ others) :
    let first := reconcile disk request
    let second := reconcile disk (request.forModule content strategies)
    second.result = first.result.map (fun outcome => { outcome with content := content }) ∧
      second.disk = first.disk ∧ second.accesses = first.accesses := by
  intro first second
  obtain ⟨strategy, hother⟩ := Request.plan_forModule hf ho hk
  cases hp : request.plan with
  | error cause =>
    rw [hp] at hother
    have hfirst : first = ⟨.error cause, disk, [], []⟩ := reconcile_of_plan_error disk hp
    have hsecond : second = ⟨.error cause, disk, [], []⟩ := reconcile_of_plan_error disk hother
    rw [hfirst, hsecond]
    exact ⟨rfl, rfl, rfl⟩
  | ok plan =>
    rw [hp] at hother
    obtain ⟨hresult, hdisk, haccesses⟩ := reconcile_of_plan disk hp
    obtain ⟨hresult', hdisk', haccesses'⟩ := reconcile_of_plan disk hother
    rw [Plan.carryOut_strategy] at hresult' hdisk' haccesses'
    refine ⟨?_, hdisk'.trans hdisk.symm, haccesses'.trans haccesses.symm⟩
    refine hresult'.trans ?_
    have hmapped : first.result =
        (plan.carryOut disk request.faults).result.map (plan.outcome request) := hresult
    rw [hmapped, Request.forModule]
    cases (plan.carryOut disk request.faults).result with
    | error cause => rfl
    | ok written => rfl

/-- Declarations have sorted fields, one for each key that is found. Texts are ordered by their
code points. The plan of a request whose mode and resource are in order has the keys that the
strategies find, in strictly ascending order, and expects the document with one field for each of
them in this order. Every outcome reports these keys, and what it says is written is this
document. If two modules have the same set of keys, whatever the order, the repetitions and the
strategies that find them, their plans expect the same text, and on every disk and under any
refusals they fail alike or return alike, with the same accesses and the same disk behind them. -/
theorem fields_sorted_and_unique :
    (∀ first second : Text, first < second ↔ first.CodesBefore second) ∧
    (∀ (request : Request) (mode : Mode) (declaration : Path) (keys : List Text),
      request.options.mode = mode.text →
      (Path.ofText request.resource).declaration? = some declaration →
      Extraction.Finds request.strategies request.content keys →
      ∃ plan, request.plan = .ok plan ∧ plan.mode = mode ∧ plan.declaration = declaration ∧
        plan.Declares keys request.options.namedExports) ∧
    (∀ (disk : Disk) (request : Request) (outcome : Outcome),
      (reconcile disk request).result = .ok outcome →
      ∃ plan keys, request.plan = .ok plan ∧
        Extraction.Finds request.strategies request.content keys ∧
        plan.Declares keys request.options.namedExports ∧ outcome.keys = plan.keys ∧
        (outcome.written = true → readDeclaration (reconcile disk request).disk {}
          outcome.declaration = .ok plan.expected)) ∧
    ∀ (disk : Disk) (request : Request) (content : Text) (strategies : List Strategy)
      (keys others : List Text),
      Extraction.Finds request.strategies request.content keys →
      Extraction.Finds strategies content others → (∀ key, key ∈ keys ↔ key ∈ others) →
      let first := reconcile disk request
      let second := reconcile disk (request.forModule content strategies)
      (∃ strategy, (request.forModule content strategies).plan =
        request.plan.map fun plan => { plan with strategy := strategy }) ∧
      second.result = first.result.map (fun outcome => { outcome with content := content }) ∧
      second.disk = first.disk ∧ second.accesses = first.accesses := by
  refine ⟨fun first second => Text.lt_iff_codesBefore, ?_, ?_, ?_⟩
  · intro request mode declaration keys hm hd hf
    exact Request.exists_plan_declares hm hd hf
  · intro disk request outcome ho
    obtain ⟨plan, hp, -, hkeys, hwritten⟩ := exists_plan_of_outcome ho
    obtain ⟨found, hf, hdeclares⟩ := Request.plan_declares hp
    exact ⟨plan, found, hp, hf, hdeclares, hkeys, hwritten⟩
  · intro disk request content strategies keys others hf ho hk first second
    exact ⟨Request.plan_forModule hf ho hk, reconcile_forModule disk hf ho hk⟩

/-- A locals object that names two keys, one of them twice, and two export statements that name them
in another order give one declaration. -/
theorem fields_sorted_and_unique_reordered :
    let entries : Text := "exports.locals = \x7b\"b\":\"a\":\"b\":".toText
    let statements : Text :=
      ExportStatement.render ['x'] ['a'] ++ ExportStatement.render ['y'] ['b']
    let request : Request := { content := entries, resource := ['r'] }
    let first := reconcile ⟨[], []⟩ request
    let second := reconcile ⟨[], []⟩ (request.forModule statements Strategy.defaults)
    (∃ plan, request.plan = .ok plan ∧ plan.Declares [['b'], ['a'], ['b']] false) ∧
      (∃ plan keys, request.plan = .ok plan ∧ plan.Declares keys false ∧
        readDeclaration first.disk {} ⟨.working, ["r.d.ts".toText]⟩ = .ok plan.expected) ∧
      second.disk = first.disk := by
  intro entries statements request first second
  have hf : Extraction.Finds Strategy.defaults entries [['b'], ['a'], ['b']] := ⟨_, rfl, rfl⟩
  have hs : Extraction.Finds Strategy.defaults statements [['a'], ['b']] := ⟨_, rfl, rfl⟩
  have hk : ∀ key : Text,
      key ∈ ([['b'], ['a'], ['b']] : List Text) ↔ key ∈ ([['a'], ['b']] : List Text) := by
    intro key
    simp only [List.mem_cons, List.not_mem_nil, or_false]
    tauto
  have hplan : request.plan = .ok ⟨.emit, ⟨.working, ["r.d.ts".toText]⟩, [['a'], ['b']],
      Declaration.render [['a'], ['b']] false, "locals".toText⟩ := rfl
  have hr : first.result = .ok
      ⟨entries, ⟨.working, ["r.d.ts".toText]⟩, [['a'], ['b']], true, []⟩ :=
    reconcile_of_due hplan rfl (Or.inl ⟨.notFound, _, rfl⟩) rfl ⟨_, rfl, by decide⟩
      (Declaration.plain_render_iff.mpr (by decide))
  obtain ⟨-, hplans, houtcomes, hmodules⟩ := fields_sorted_and_unique
  obtain ⟨plan, hp, -, -, hdeclares⟩ := hplans request .emit _ _ rfl rfl hf
  obtain ⟨written, keys, hw, -, hkeys, -, hread⟩ := houtcomes _ request _ hr
  obtain ⟨-, -, hdisk, -⟩ := hmodules ⟨[], []⟩ request statements Strategy.defaults _ _ hf hs hk
  exact ⟨⟨plan, hp, hdeclares⟩, ⟨written, keys, hw, hkeys, hread rfl⟩, hdisk⟩

end StyleTypings
