import StyleTypings.Proofs.Reconcile.Readings

/-!
# The two modes agree

Emitting and checking share one notion of a declaration that is up to date: an emission leaves
the file alone exactly where a check passes, and it sets out to write exactly where a check
fails over the declaration. A failure before any access, or a path that the system does not
take, is the same failure in both modes and calls for no write. Whether a write that is set
out for succeeds is not said here.
-/

namespace StyleTypings

/-- The failures of a check over which an emission writes: the declaration is missing or out of
date, the system refuses to open it, or its bytes are no text. -/
def Failure.CallsForEmission : Failure → Prop
  | .declarationMissing _ | .declarationOutdated _ _ | .refused _ _ | .undecodable _ => True
  | _ => False

variable {request : Request} {plan : Plan} {disk : Disk} {faults : Faults} {cause : Failure}

/-- A check fails with a failure that calls for an emission exactly if a write is due. -/
theorem Plan.due_iff_verify : plan.Due disk faults ↔
    ∃ cause, (plan.verify disk faults).result = .error cause ∧ cause.CallsForEmission := by
  constructor
  · rintro (⟨fault, file, hr⟩ | ⟨fault, hr⟩ | ⟨existing, hr, he⟩)
    · by_cases hn : (Failure.refused fault file).SaysNotFound
      · rw [Plan.verify_of_notFound hr hn]
        exact ⟨_, rfl, trivial⟩
      · rw [Plan.verify_of_error hr hn]
        exact ⟨_, rfl, trivial⟩
    · have hn : ¬(Failure.undecodable fault).SaysNotFound := by
        rintro ⟨_, _, hf, -⟩
        cases hf
      rw [Plan.verify_of_error hr hn]
      exact ⟨_, rfl, trivial⟩
    · rw [Plan.verify_of_different hr he]
      exact ⟨_, rfl, trivial⟩
  · rintro ⟨cause, hv, hc⟩
    rcases Plan.verify_eq_error_iff.mp hv with
      ⟨⟨_, hr, fault, file, rfl, -⟩, -⟩ | ⟨existing, hr, he, -⟩ | ⟨hr, -⟩
    · exact Or.inl ⟨fault, file, hr⟩
    · exact Or.inr (Or.inr ⟨existing, hr, he⟩)
    · rcases cause_of_readDeclaration_error hr with
        ⟨fault, file, rfl⟩ | ⟨fault, rfl⟩ | ⟨bad, rfl⟩
      · exact Or.inl ⟨fault, file, hr⟩
      · exact Or.inr (Or.inl ⟨fault, hr⟩)
      · exact hc.elim

/-- The two modes of a request without a plan fail alike, and nothing is accessed. -/
theorem reconcile_inMode_of_plan_error (disk : Disk)
    (hp : (request.inMode .verify).plan = .error cause) (mode : Mode) :
    reconcile disk (request.inMode mode) = ⟨.error cause, disk, [], []⟩ := by
  refine reconcile_of_plan_error disk ?_
  rw [request.plan_inMode .verify mode, hp]
  rfl

/-- The two modes of a request with a plan carry the same plan out. -/
theorem reconcile_inMode_of_plan (disk : Disk) (hp : (request.inMode .verify).plan = .ok plan) :
    (reconcile disk (request.inMode .verify)).result =
      (plan.verify disk request.faults).result.map (plan.outcome request) ∧
    (reconcile disk (request.inMode .emit)).result =
      (plan.emit disk request.faults).result.map (plan.outcome request) ∧
    (reconcile disk (request.inMode .emit)).accesses =
      (plan.emit disk request.faults).accesses := by
  have hmode : plan.mode = .verify := Request.mode_of_plan hp rfl
  have he : (request.inMode .emit).plan = .ok { plan with mode := .emit } := by
    rw [request.plan_inMode .verify .emit, hp]
    rfl
  obtain ⟨hv, -, -⟩ := reconcile_of_plan disk hp
  obtain ⟨hr, -, ha⟩ := reconcile_of_plan disk he
  rw [Plan.carryOut_of_verify hmode] at hv
  exact ⟨hv, hr, ha⟩

/-- An emission that leaves the file alone and a check that passes have the same outcome. -/
theorem unchanged_iff_check_passes (disk : Disk) (request : Request) (outcome : Outcome) :
    ((reconcile disk (request.inMode .emit)).result = .ok outcome ∧ outcome.written = false) ↔
      (reconcile disk (request.inMode .verify)).result = .ok outcome := by
  cases hp : (request.inMode .verify).plan with
  | error cause =>
    rw [reconcile_inMode_of_plan_error disk hp, reconcile_inMode_of_plan_error disk hp]
    simp only [reduceCtorEq, false_and]
  | ok plan =>
    obtain ⟨hv, he, -⟩ := reconcile_inMode_of_plan disk hp
    rw [hv, he, map_outcome_eq_ok_iff, map_outcome_eq_ok_iff]
    constructor
    · rintro ⟨⟨written, hr, rfl⟩, hw⟩
      have hfalse : written = false := hw
      rw [hfalse] at hr ⊢
      exact ⟨false, Plan.verify_eq_ok_iff.mpr ⟨rfl, Plan.emit_eq_ok_false_iff.mp hr⟩, rfl⟩
    · rintro ⟨written, hr, rfl⟩
      obtain ⟨rfl, hu⟩ := Plan.verify_eq_ok_iff.mp hr
      exact ⟨⟨false, Plan.emit_eq_ok_false_iff.mpr hu, rfl⟩, rfl⟩

/-- An emission sets out to write exactly if a check fails over the declaration. -/
theorem write_mem_iff_check_fails (disk : Disk) (request : Request) :
    .write ∈ (reconcile disk (request.inMode .emit)).accesses ↔
      ∃ cause, (reconcile disk (request.inMode .verify)).result = .error cause ∧
        cause.CallsForEmission := by
  cases hp : (request.inMode .verify).plan with
  | error cause =>
    rw [reconcile_inMode_of_plan_error disk hp, reconcile_inMode_of_plan_error disk hp]
    have hc : ¬cause.CallsForEmission := by
      rcases Request.cause_of_plan_error hp with ⟨_, rfl⟩ | ⟨_, rfl⟩ | ⟨_, rfl⟩ <;> exact id
    refine iff_of_false List.not_mem_nil ?_
    rintro ⟨other, he, ho⟩
    cases he
    exact hc ho
  | ok plan =>
    obtain ⟨hv, -, ha⟩ := reconcile_inMode_of_plan disk hp
    simp only [hv, ha, map_outcome_eq_error_iff, ← Plan.due_iff_verify]
    rcases plan.emit_accesses disk request.faults with ⟨hd, hl⟩ | ⟨hd, hl⟩
    · rw [hl]
      exact iff_of_true (by decide) hd
    · rw [hl]
      exact iff_of_false (by decide) hd

/-- A check passes exactly if the reading yields a text that differs in no more than line ends. -/
theorem check_passes_iff (disk : Disk) (request : Request) :
    (∃ outcome, (reconcile disk (request.inMode .verify)).result = .ok outcome) ↔
      ∃ plan existing, (request.inMode .verify).plan = .ok plan ∧
        readDeclaration disk request.faults plan.declaration = .ok existing ∧
        Text.crlfToLf existing = Text.crlfToLf plan.expected := by
  constructor
  · rintro ⟨outcome, ho⟩
    obtain ⟨plan, written, hp, hr, -⟩ := reconcile_eq_ok_iff.mp ho
    rw [Plan.carryOut_of_verify (Request.mode_of_plan hp rfl)] at hr
    obtain ⟨-, existing, hread, he⟩ := Plan.verify_eq_ok_iff.mp hr
    exact ⟨plan, existing, hp, hread, he⟩
  · rintro ⟨plan, existing, hp, hread, he⟩
    have hv : (plan.verify disk request.faults).result = .ok false :=
      Plan.verify_eq_ok_iff.mpr ⟨rfl, existing, hread, he⟩
    rw [← Plan.carryOut_of_verify (Request.mode_of_plan hp rfl)] at hv
    exact ⟨_, reconcile_eq_ok_iff.mpr ⟨plan, false, hp, hv, rfl⟩⟩

/-- A check fails as its plan does, and without a plan it fails for a reason that speaks of no
declaration file. -/
theorem check_eq_error_iff (disk : Disk) (request : Request) (cause : Failure) :
    (reconcile disk (request.inMode .verify)).result = .error cause ↔
      (request.inMode .verify).plan = .error cause ∨
      ∃ plan, (request.inMode .verify).plan = .ok plan ∧
        (plan.verify disk request.faults).result = .error cause := by
  rw [reconcile_eq_error_iff]
  refine or_congr_right (exists_congr fun plan => and_congr_right fun hp => ?_)
  rw [Plan.carryOut_of_verify (Request.mode_of_plan hp rfl)]
  rfl

/-- A declaration is reported as missing exactly if the reading says that there is no file. -/
theorem check_missing_iff (disk : Disk) (request : Request) (path : Path) :
    (reconcile disk (request.inMode .verify)).result = .error (.declarationMissing path) ↔
      ∃ plan, (request.inMode .verify).plan = .ok plan ∧ path = plan.declaration ∧
        ∃ cause, readDeclaration disk request.faults path = .error cause ∧ cause.SaysNotFound := by
  rw [check_eq_error_iff]
  constructor
  · rintro (hp | ⟨plan, hp, hv⟩)
    · rcases Request.cause_of_plan_error hp with ⟨_, hc⟩ | ⟨_, hc⟩ | ⟨_, hc⟩ <;> cases hc
    · rcases Plan.verify_eq_error_iff.mp hv with ⟨hr, hc⟩ | ⟨_, -, -, hc⟩ | ⟨hr, -⟩
      · cases hc
        exact ⟨plan, hp, rfl, hr⟩
      · cases hc
      · rcases cause_of_readDeclaration_error hr with ⟨_, _, hc⟩ | ⟨_, hc⟩ | ⟨_, hc⟩ <;> cases hc
  · rintro ⟨plan, hp, rfl, hr⟩
    exact Or.inr ⟨plan, hp, Plan.verify_eq_error_iff.mpr (Or.inl ⟨hr, rfl⟩)⟩

/-- A declaration is reported as out of date exactly if the reading yields a text that differs
in more than line ends, and the report shows the difference. -/
theorem check_outdated_iff (disk : Disk) (request : Request) (path : Path) (diff : Text) :
    (reconcile disk (request.inMode .verify)).result = .error (.declarationOutdated path diff) ↔
      ∃ plan existing, (request.inMode .verify).plan = .ok plan ∧ path = plan.declaration ∧
        readDeclaration disk request.faults path = .ok existing ∧
        Text.crlfToLf existing ≠ Text.crlfToLf plan.expected ∧
        diff = Diff.unified path.name (some existing) plan.expected := by
  rw [check_eq_error_iff]
  constructor
  · rintro (hp | ⟨plan, hp, hv⟩)
    · rcases Request.cause_of_plan_error hp with ⟨_, hc⟩ | ⟨_, hc⟩ | ⟨_, hc⟩ <;> cases hc
    · obtain ⟨existing, hr, hd, rfl, rfl⟩ := Plan.verify_outdated_iff.mp hv
      exact ⟨plan, existing, hp, rfl, hr, hd, rfl⟩
  · rintro ⟨plan, existing, hp, rfl, hr, hd, rfl⟩
    exact Or.inr ⟨plan, hp, Plan.verify_outdated_iff.mpr ⟨existing, hr, hd, rfl, rfl⟩⟩

/-- Any other failure of the reading is the failure of the check. -/
theorem check_error_of_reading (disk : Disk) (hp : (request.inMode .verify).plan = .ok plan)
    (hr : readDeclaration disk request.faults plan.declaration = .error cause)
    (hn : ¬cause.SaysNotFound) :
    (reconcile disk (request.inMode .verify)).result = .error cause := by
  have hv : (plan.verify disk request.faults).result = .error cause :=
    Plan.verify_eq_error_iff.mpr (Or.inr (Or.inr ⟨hr, hn⟩))
  rw [check_eq_error_iff]
  exact Or.inr ⟨plan, hp, hv⟩

/-- The two modes agree on what is up to date. On any disk and under any refusals, an emission
returns without writing exactly if a check returns, with the same outcome, and it sets out to
write exactly if a check fails over the declaration. A check passes exactly if the text that is
read differs from the expected one in no more than line ends, and reports a declaration that is
out of date exactly if it differs in more. It reports a missing declaration exactly if the
reading finds no file; every other failure of the reading is handed on as it is. -/
theorem modes_agree_on_upToDate (disk : Disk) (request : Request) :
    let emitted := reconcile disk (request.inMode .emit)
    let checked := reconcile disk (request.inMode .verify)
    (∀ outcome, emitted.result = .ok outcome ∧ outcome.written = false ↔
      checked.result = .ok outcome) ∧
    (.write ∈ emitted.accesses ↔
      ∃ cause, checked.result = .error cause ∧ cause.CallsForEmission) ∧
    ((∃ outcome, checked.result = .ok outcome) ↔
      ∃ plan existing, (request.inMode .verify).plan = .ok plan ∧
        readDeclaration disk request.faults plan.declaration = .ok existing ∧
        Text.crlfToLf existing = Text.crlfToLf plan.expected) ∧
    (∀ path, checked.result = .error (.declarationMissing path) ↔
      ∃ plan, (request.inMode .verify).plan = .ok plan ∧ path = plan.declaration ∧
        ∃ cause, readDeclaration disk request.faults path = .error cause ∧ cause.SaysNotFound) ∧
    (∀ path diff, checked.result = .error (.declarationOutdated path diff) ↔
      ∃ plan existing, (request.inMode .verify).plan = .ok plan ∧ path = plan.declaration ∧
        readDeclaration disk request.faults path = .ok existing ∧
        Text.crlfToLf existing ≠ Text.crlfToLf plan.expected ∧
        diff = Diff.unified path.name (some existing) plan.expected) ∧
    ∀ plan cause, (request.inMode .verify).plan = .ok plan →
      readDeclaration disk request.faults plan.declaration = .error cause →
      ¬cause.SaysNotFound → checked.result = .error cause := by
  intro emitted checked
  refine ⟨?_, ?_, ?_, ?_, ?_, ?_⟩
  · exact unchanged_iff_check_passes disk request
  · exact write_mem_iff_check_fails disk request
  · exact check_passes_iff disk request
  · exact check_missing_iff disk request
  · exact check_outdated_iff disk request
  · intro plan cause hp hr hn
    exact check_error_of_reading disk hp hr hn

/-- A refusal that does not say that the file is missing is handed on by the check, and it calls
for an emission. -/
theorem modes_agree_on_upToDate_refused :
    let request : Request :=
      { content := [], resource := ['a'], strategies := [.fixed [] true []],
        faults := ⟨some ⟨5, []⟩, none⟩ }
    let refusal : Failure := .refused ⟨5, []⟩ "a.d.ts".toText
    ¬refusal.SaysNotFound ∧
      (reconcile ⟨[], []⟩ (request.inMode .verify)).result = .error refusal ∧
      .write ∈ (reconcile ⟨[], []⟩ (request.inMode .emit)).accesses := by
  intro request refusal
  obtain ⟨-, hwrite, -, -, -, hother⟩ := modes_agree_on_upToDate ⟨[], []⟩ request
  have hn : ¬refusal.SaysNotFound := by
    rintro ⟨fault, file, he, hcode⟩
    have hf : ⟨5, []⟩ = fault := (Failure.refused.inj he).1
    rw [← hf] at hcode
    exact absurd hcode (by decide)
  have hr : (reconcile ⟨[], []⟩ (request.inMode .verify)).result = .error refusal :=
    hother _ _ rfl rfl hn
  exact ⟨hn, hr, hwrite.mpr ⟨refusal, hr, trivial⟩⟩

end StyleTypings
