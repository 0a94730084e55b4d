import StyleTypings.Proofs.Declaration.Lines
import StyleTypings.Proofs.Reconcile.Readings
import Mathlib.Data.List.Forall2

/-!
# Declarations that stay as they are

An emission that returns leaves a declaration that is up to date, whether it wrote the file or
accepted what it found. Both modes leave such a declaration alone, so any further requests for
it, in any order, return at once and change nothing. The keys may have any characters: what is
compared is the text that was written, read back from its bytes.
-/

namespace StyleTypings

/-- The runs of requests that are made one after the other, each on the disk that the one
before it leaves. -/
def reconcileAll (disk : Disk) : List Request → List (Run Outcome)
  | [] => []
  | request :: later =>
    let run := reconcile disk request
    run :: reconcileAll run.disk later

/-- A request for the same declaration once more, in either mode and without any refusal. The
values that are handed through may be others. -/
structure Request.Repeats (first next : Request) : Prop where
  /-- The compiled text is the same. -/
  content : next.content = first.content
  /-- The resource is the same. -/
  resource : next.resource = first.resource
  /-- The strategies are the same. -/
  strategies : next.strategies = first.strategies
  /-- The export choice is the same. -/
  namedExports : next.options.namedExports = first.options.namedExports
  /-- The mode is one of the two. -/
  mode : ∃ mode : Mode, next.options.mode = mode.text
  /-- No refusal is to happen. -/
  faultless : next.faults = {}

variable {request next : Request} {plan : Plan} {disk : Disk} {faults : Faults} {written : Bool}

/-- A request that is made once more has the same plan but for the mode. -/
theorem Request.Repeats.exists_plan (hn : request.Repeats next) (hp : request.plan = .ok plan) :
    ∃ mode, next.plan = .ok { plan with mode := mode } := by
  obtain ⟨mode, hmode⟩ := hn.mode
  obtain ⟨-, hd, found, hs, hk, he, hname⟩ := Request.plan_eq_ok_iff.mp hp
  refine ⟨mode, Request.plan_eq_ok_iff.mpr ⟨hmode, ?_, found, ?_, hk, ?_, hname⟩⟩
  · rw [hn.resource, hd]
  · rw [hn.strategies, hn.content, hs]
  · rw [hn.namedExports, he]

/-- What an emission that returns leaves is up to date, even if its own reading was refused. -/
theorem Plan.upToDate_of_emit (hr : (plan.emit disk faults).result = .ok written) :
    plan.UpToDate (plan.emit disk faults).disk {} := by
  rcases plan.reading_cases disk faults with hu | hd | hb
  · rw [Plan.emit_of_upToDate hu]
    obtain ⟨existing, hread, he⟩ := hu
    exact ⟨existing, readDeclaration_faultless hread, he⟩
  · obtain ⟨notes, hemit⟩ := Plan.emit_of_due hd
    rw [hemit] at hr ⊢
    rcases plan.replace_cases disk faults notes with
      ⟨cause, -, hf⟩ | ⟨run, left, -, -, hf⟩ | ⟨after, hw, hf⟩
    · rw [hf] at hr
      cases hr
    · rw [hf] at hr
      cases hr
    · rw [hf]
      exact ⟨plan.expected, readDeclaration_write hw, rfl⟩
  · obtain ⟨bad, hb⟩ := hb
    rw [Plan.emit_of_barred hb] at hr
    cases hr

/-- Both modes read a declaration that is up to date once and leave the disk alone. -/
theorem Plan.carryOut_of_upToDate (hu : plan.UpToDate disk faults) :
    (plan.carryOut disk faults).result = .ok false ∧ (plan.carryOut disk faults).disk = disk := by
  unfold Plan.carryOut
  cases plan.mode with
  | emit => rw [Plan.emit_of_upToDate hu]; exact ⟨rfl, rfl⟩
  | verify => rw [Plan.verify_of_upToDate hu]; exact ⟨rfl, rfl⟩

/-- One more request for a declaration that is up to date returns with the same keys and the
same path, and leaves the disk alone. -/
theorem reconcile_repeated (hp : request.plan = .ok plan) (hu : plan.UpToDate disk {})
    (hn : request.Repeats next) :
    (reconcile disk next).result =
      .ok ⟨next.content, plan.declaration, plan.keys, false, next.passthrough⟩ ∧
    (reconcile disk next).disk = disk := by
  obtain ⟨mode, hplan⟩ := hn.exists_plan hp
  obtain ⟨hresult, hdisk, -⟩ := reconcile_of_plan disk hplan
  have hm : ({ plan with mode := mode } : Plan).UpToDate disk {} := hu
  obtain ⟨hr, hd⟩ := Plan.carryOut_of_upToDate hm
  rw [hresult, hdisk, hn.faultless, hr, hd]
  exact ⟨rfl, rfl⟩

/-- An emission that returns has a plan, and it leaves the declaration up to date with it. -/
theorem upToDate_of_emission {outcome : Outcome} (hm : request.options.mode = Mode.emit.text)
    (ho : (reconcile disk request).result = .ok outcome) :
    ∃ plan, request.plan = .ok plan ∧ plan.UpToDate (reconcile disk request).disk {} ∧
      outcome.declaration = plan.declaration ∧ outcome.keys = plan.keys := by
  obtain ⟨plan, written, hp, hr, rfl⟩ := reconcile_eq_ok_iff.mp ho
  have hmode : plan.mode = .emit := Request.mode_of_plan hp hm
  rw [Plan.carryOut_of_emit hmode] at hr
  refine ⟨plan, hp, ?_, rfl, rfl⟩
  rw [(reconcile_of_plan disk hp).2.1, Plan.carryOut_of_emit hmode]
  exact Plan.upToDate_of_emit hr

/-- A declaration that was emitted is settled. Whatever sequence of requests for it follows,
emitting or checking, each of them returns without writing, reports the path and the keys of
the emission, and leaves every file as the emission left it. -/
theorem emitted_declaration_settled {outcome : Outcome} {later : List Request}
    (hm : request.options.mode = Mode.emit.text)
    (ho : (reconcile disk request).result = .ok outcome)
    (hl : ∀ next ∈ later, request.Repeats next) :
    List.Forall₂
      (fun next run => run.result =
          .ok ⟨next.content, outcome.declaration, outcome.keys, false, next.passthrough⟩ ∧
        run.disk = (reconcile disk request).disk)
      later (reconcileAll (reconcile disk request).disk later) := by
  obtain ⟨plan, hp, hu, hd, hk⟩ := upToDate_of_emission hm ho
  rw [hd, hk]
  generalize (reconcile disk request).disk = after at hu ⊢
  -- The disk stays `after` from run to run, so the induction needs no other invariant.
  induction later with
  | nil => exact List.Forall₂.nil
  | cons next later ih =>
    obtain ⟨hnext, hlater⟩ := List.forall_mem_cons.mp hl
    obtain ⟨hresult, hdisk⟩ := reconcile_repeated hp hu hnext
    refine List.Forall₂.cons ⟨hresult, hdisk⟩ ?_
    rw [hdisk]
    exact ih hlater

/-- A refused reading and a key that holds a line end of two characters do no harm: the file is
written, then checked, then emitted once more. -/
theorem emitted_declaration_settled_lineEnd :
    let disk : Disk := ⟨[], []⟩
    let request : Request :=
      { content := [], resource := "a.css".toText,
        strategies := [.fixed [] true ["a\r\nb".toText]], faults := ⟨some ⟨5, []⟩, none⟩ }
    let later : List Request :=
      [{ request with options := ⟨Mode.verify.text, false⟩, faults := {} },
        { request with faults := {} }]
    (reconcile disk request).result =
        .ok ⟨[], ⟨.working, ["a.css.d.ts".toText]⟩, ["a\r\nb".toText], true, []⟩ ∧
      (∀ next ∈ later, request.Repeats next) ∧
      List.Forall₂
        (fun next run => run.result = .ok ⟨next.content, ⟨.working, ["a.css.d.ts".toText]⟩,
            ["a\r\nb".toText], false, next.passthrough⟩ ∧
          run.disk = (reconcile disk request).disk)
        later (reconcileAll (reconcile disk request).disk later) := by
  intro disk request later
  have hp : request.plan = .ok ⟨.emit, ⟨.working, ["a.css.d.ts".toText]⟩, ["a\r\nb".toText],
      Declaration.render ["a\r\nb".toText] false, []⟩ := rfl
  have ho : (reconcile disk request).result =
      .ok ⟨[], ⟨.working, ["a.css.d.ts".toText]⟩, ["a\r\nb".toText], true, []⟩ :=
    reconcile_of_due hp rfl (Or.inl ⟨_, _, rfl⟩) rfl ⟨_, rfl, by decide⟩
      (Declaration.plain_render_iff.mpr (by decide))
  have hl : ∀ next ∈ later, request.Repeats next := by
    intro next hn
    rcases List.mem_pair.mp hn with rfl | rfl
    · exact ⟨rfl, rfl, rfl, rfl, ⟨.verify, rfl⟩, rfl⟩
    · exact ⟨rfl, rfl, rfl, rfl, ⟨.emit, rfl⟩, rfl⟩
  exact ⟨ho, hl, emitted_declaration_settled rfl ho hl⟩

end StyleTypings
