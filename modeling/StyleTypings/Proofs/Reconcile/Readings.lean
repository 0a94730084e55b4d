import StyleTypings.Proofs.Disk.Keeping
import StyleTypings.Proofs.Options.Modes
import StyleTypings.Proofs.Text.Encoding
import StyleTypings.Proofs.Text.LineEnds
import StyleTypings.Reconcile

/-!
# What one reading decides

A request comes to a plan or fails before any access. A plan is carried out by one reading of
the declaration, and what this yields decides everything else in both modes: the declaration
is up to date, or writing it is due, or its path is none that the system takes. There is one
lemma for each mode and each of the three cases, and one for a write that follows, so that no
later proof opens the definitions of the modes. A write that is due can fail in two ways: the file
is not opened and stays, or it is opened, and a surrogate in the text leaves it empty.
-/

namespace StyleTypings

variable {request : Request} {plan : Plan} {disk after left : Disk} {faults : Faults}
  {path : Path} {existing : Text} {cause : Failure}

/-- A plan takes its mode from the options, its path from the resource and its keys from the
content; the expected text is rendered from the keys. -/
theorem Request.plan_eq_ok_iff : request.plan = .ok plan ↔
    request.options.mode = plan.mode.text ∧
    (Path.ofText request.resource).declaration? = some plan.declaration ∧
    ∃ found, Extraction.select request.strategies request.content = .ok found ∧
      plan.keys = collectKeys found.keys.toList ∧
      plan.expected = Declaration.render plan.keys request.options.namedExports ∧
      plan.strategy = found.strategy := by
  rw [← Mode.ofText?_eq_some_iff]
  unfold Request.plan
  dsimp only
  cases Mode.ofText? request.options.mode with
  | none => simp
  | some mode =>
    cases (Path.ofText request.resource).declaration? with
    | none => simp
    | some declaration =>
      cases Extraction.select request.strategies request.content with
      | error fault => simp
      | ok found =>
        obtain ⟨m, d, k, e, s⟩ := plan
        simp only [Except.ok.injEq, Plan.mk.injEq, Option.some.injEq, exists_eq_left']
        constructor
        · rintro ⟨rfl, rfl, rfl, rfl, rfl⟩
          exact ⟨rfl, rfl, rfl, rfl, rfl⟩
        · rintro ⟨rfl, rfl, rfl, rfl, rfl⟩
          exact ⟨rfl, rfl, rfl, rfl, rfl⟩

/-- The mode of a plan is the one that the options name. -/
theorem Request.mode_of_plan {mode : Mode} (hp : request.plan = .ok plan)
    (hm : request.options.mode = mode.text) : plan.mode = mode := by
  have ht := (Request.plan_eq_ok_iff.mp hp).1
  rw [hm] at ht
  exact Mode.text_injective ht.symm

/-- A request whose mode, resource and content are in order has a plan for the keys that are
found. -/
theorem Request.plan_of_select {mode : Mode} {declaration : Path} {found : Extraction}
    (hm : request.options.mode = mode.text)
    (hd : (Path.ofText request.resource).declaration? = some declaration)
    (hs : Extraction.select request.strategies request.content = .ok found) :
    request.plan = .ok ⟨mode, declaration, collectKeys found.keys.toList,
      Declaration.render (collectKeys found.keys.toList) request.options.namedExports,
      found.strategy⟩ :=
  Request.plan_eq_ok_iff.mpr ⟨hm, hd, found, hs, rfl, rfl, rfl⟩

/-- The failure before any access, if there is one, is none that speaks of a declaration file. -/
theorem Request.cause_of_plan_error (hp : request.plan = .error cause) :
    (∃ given, cause = .invalidMode given) ∨ (∃ resource, cause = .noName resource) ∨
      ∃ fault, cause = .strategy fault := by
  unfold Request.plan at hp
  split at hp
  · cases hp
    exact Or.inl ⟨_, rfl⟩
  · dsimp only at hp
    split at hp
    · cases hp
      exact Or.inr (Or.inl ⟨_, rfl⟩)
    · split at hp
      · cases hp
        exact Or.inr (Or.inr ⟨_, rfl⟩)
      · cases hp

/-- The request with another mode. -/
def Request.inMode (request : Request) (mode : Mode) : Request :=
  { request with options := { request.options with mode := mode.text } }

/-- The plans of a request in the two modes differ in nothing but the mode. -/
theorem Request.plan_inMode (request : Request) (first second : Mode) :
    (request.inMode second).plan =
      (request.inMode first).plan.map fun plan => { plan with mode := second } := by
  have ht : ∀ mode : Mode, Mode.ofText? mode.text = some mode := fun mode =>
    Mode.ofText?_eq_some_iff.mpr rfl
  simp only [Request.plan, Request.inMode, ht]
  cases (Path.ofText request.resource).declaration? with
  | none => rfl
  | some declaration =>
    cases Extraction.select request.strategies request.content <;> rfl

/-! ## Reading and writing one declaration -/

/-- A declaration is read as a text exactly if no fault is injected and the bytes of the file are
decoded to it. -/
theorem readDeclaration_eq_ok_iff : readDeclaration disk faults path = .ok existing ↔
    faults.read = none ∧
      ∃ bytes, disk.read path = .ok bytes ∧ Utf8.decode bytes = .ok existing := by
  unfold readDeclaration
  cases faults.read with
  | some fault => simp
  | none =>
    cases disk.read path with
    | error fault => simp
    | ok bytes =>
      dsimp only
      cases hd : Utf8.decode bytes <;> simp [hd]

/-- A reading fails because the system refuses, because the bytes are no text, or because the
path is none that the system takes. -/
theorem cause_of_readDeclaration_error (hr : readDeclaration disk faults path = .error cause) :
    (∃ fault file, cause = .refused fault file) ∨ (∃ fault, cause = .undecodable fault) ∨
      ∃ bad, cause = .invalidPath bad := by
  unfold readDeclaration at hr
  split at hr
  · cases hr
    exact Or.inl ⟨_, _, rfl⟩
  · split at hr
    · next fault _ =>
      cases hr
      cases fault with
      | refused fault => exact Or.inl ⟨_, _, rfl⟩
      | invalid bad => exact Or.inr (Or.inr ⟨bad, rfl⟩)
    · split at hr
      · cases hr
        exact Or.inr (Or.inl ⟨_, rfl⟩)
      · cases hr

/-- A reading fails over the path only if the system does not take it. -/
theorem of?_of_readDeclaration {bad : PathFault}
    (hr : readDeclaration disk faults path = .error (.invalidPath bad)) :
    PathFault.of? path.text = some bad := by
  unfold readDeclaration at hr
  split at hr
  · cases hr
  · split at hr
    · next fault hread =>
      cases fault with
      | refused fault => cases hr
      | invalid other =>
        cases hr
        exact Disk.read_eq_invalid_iff.mp hread
    · split at hr <;> cases hr

/-- A declaration is written exactly if no refusal is to happen, its text has bytes, and its file is
written with them. -/
theorem writeDeclaration_eq_ok_iff {text : Text} :
    writeDeclaration disk faults path text = .ok after ↔
      faults.write = none ∧
        ∃ bytes, Utf8.encode text = .ok bytes ∧ disk.write path bytes = .ok after := by
  unfold writeDeclaration
  cases faults.write with
  | some fault => simp
  | none =>
    cases Utf8.encode text with
    | ok bytes => cases hw : disk.write path bytes <;> simp [hw]
    | error run => cases disk.write path [] <;> simp

/-- Why the file of a declaration is not opened for writing: the system refuses, or it does not take
the path. -/
def Failure.NotOpened (cause : Failure) (path : Path) : Prop :=
  (∃ fault file, cause = .refused fault file) ∨
  ∃ bad, PathFault.of? path.text = some bad ∧ cause = .invalidPath bad

/-- A write that the disk refuses has not opened the file. -/
theorem notOpened_of_write {content : Bytes} {fault : AccessFault}
    (hw : disk.write path content = .error fault) :
    (Failure.ofAccess path fault).NotOpened path := by
  cases fault with
  | refused fault => exact Or.inl ⟨fault, path.text, rfl⟩
  | invalid bad => exact Or.inr ⟨bad, (Disk.write_eq_invalid_iff content).mp hw, rfl⟩

/-- A failure that left the file closed is not one over a text without bytes. -/
theorem Failure.NotOpened.ne_unwritable (hc : cause.NotOpened path) (run : Utf8.SurrogateRun) :
    cause ≠ .unwritable run := by
  rcases hc with ⟨fault, file, rfl⟩ | ⟨bad, -, rfl⟩ <;> simp

/-- A writing that fails leaves the disk, or it has opened and emptied the file, and the text has no
bytes. -/
theorem cases_of_writeDeclaration_error {text : Text}
    (hw : writeDeclaration disk faults path text = .error (cause, left)) :
    (cause.NotOpened path ∧ left = disk) ∨
    ∃ run, Utf8.encode text = .error run ∧ cause = .unwritable run ∧
      disk.write path [] = .ok left := by
  unfold writeDeclaration at hw
  split at hw
  · cases hw
    exact Or.inl ⟨Or.inl ⟨_, _, rfl⟩, rfl⟩
  · split at hw
    · split at hw
      · next hwrite =>
        cases hw
        exact Or.inl ⟨notOpened_of_write hwrite, rfl⟩
      · cases hw
    · next run he =>
      split at hw
      · next hwrite =>
        cases hw
        exact Or.inl ⟨notOpened_of_write hwrite, rfl⟩
      · next hempty =>
        cases hw
        exact Or.inr ⟨run, he, rfl, hempty⟩

/-- A declaration that was written is read back as the text that was written. -/
theorem readDeclaration_write {text : Text}
    (hw : writeDeclaration disk faults path text = .ok after) :
    readDeclaration after {} path = .ok text := by
  obtain ⟨-, bytes, he, hw⟩ := writeDeclaration_eq_ok_iff.mp hw
  exact readDeclaration_eq_ok_iff.mpr ⟨rfl, bytes, Disk.read_write hw, Utf8.decode_encode he⟩

/-- A reading that succeeds does so too when no refusal is to happen. -/
theorem readDeclaration_faultless (hr : readDeclaration disk faults path = .ok existing) :
    readDeclaration disk {} path = .ok existing :=
  readDeclaration_eq_ok_iff.mpr ⟨rfl, (readDeclaration_eq_ok_iff.mp hr).2⟩

/-- The failure is a refusal that says that the file does not exist. -/
def Failure.SaysNotFound (cause : Failure) : Prop :=
  ∃ fault file, cause = .refused fault file ∧ fault.code = 2

/-- What a reading must yield for a write to be due: the file is refused, or it is no text, or
its text differs from the expected one in more than line ends. -/
def WriteDue (reading : Except Failure Text) (expected : Text) : Prop :=
  (∃ fault file, reading = .error (.refused fault file)) ∨
  (∃ fault, reading = .error (.undecodable fault)) ∨
  ∃ existing, reading = .ok existing ∧ Text.crlfToLf existing ≠ Text.crlfToLf expected

namespace Plan

/-- The declaration can be read, and it says what the plan expects but for its line ends. -/
def UpToDate (plan : Plan) (disk : Disk) (faults : Faults) : Prop :=
  ∃ existing, readDeclaration disk faults plan.declaration = .ok existing ∧
    Text.crlfToLf existing = Text.crlfToLf plan.expected

/-- Writing the declaration is due. -/
def Due (plan : Plan) (disk : Disk) (faults : Faults) : Prop :=
  WriteDue (readDeclaration disk faults plan.declaration) plan.expected

/-- The path of the declaration is none that the system takes. -/
def Barred (plan : Plan) (disk : Disk) (faults : Faults) : Prop :=
  ∃ bad, readDeclaration disk faults plan.declaration = .error (.invalidPath bad)

/-- Every reading ends in one of the three cases. -/
theorem reading_cases (plan : Plan) (disk : Disk) (faults : Faults) :
    plan.UpToDate disk faults ∨ plan.Due disk faults ∨ plan.Barred disk faults := by
  unfold UpToDate Due WriteDue Barred
  cases hr : readDeclaration disk faults plan.declaration with
  | ok existing =>
    by_cases he : Text.crlfToLf existing = Text.crlfToLf plan.expected
    · exact Or.inl ⟨existing, rfl, he⟩
    · exact Or.inr (Or.inl (Or.inr (Or.inr ⟨existing, rfl, he⟩)))
  | error cause =>
    rcases cause_of_readDeclaration_error hr with ⟨fault, file, rfl⟩ | ⟨fault, rfl⟩ | ⟨bad, rfl⟩
    · exact Or.inr (Or.inl (Or.inl ⟨fault, file, rfl⟩))
    · exact Or.inr (Or.inl (Or.inr (Or.inl ⟨fault, rfl⟩)))
    · exact Or.inr (Or.inr ⟨bad, rfl⟩)

/-- What is up to date is not due. -/
theorem not_due_of_upToDate (hu : plan.UpToDate disk faults) : ¬plan.Due disk faults := by
  obtain ⟨existing, hr, he⟩ := hu
  rintro (⟨fault, file, hf⟩ | ⟨fault, hf⟩ | ⟨other, ho, hne⟩)
  · rw [hr] at hf
    cases hf
  · rw [hr] at hf
    cases hf
  · rw [hr] at ho
    cases ho
    exact hne he

/-- What cannot be named is not due. -/
theorem not_due_of_barred (hb : plan.Barred disk faults) : ¬plan.Due disk faults := by
  obtain ⟨bad, hb⟩ := hb
  rintro (⟨fault, file, hf⟩ | ⟨fault, hf⟩ | ⟨other, ho, -⟩)
  · rw [hb] at hf
    cases hf
  · rw [hb] at hf
    cases hf
  · rw [hb] at ho
    cases ho

/-! ## The two modes in the three cases -/

theorem carryOut_of_verify (hm : plan.mode = .verify) :
    plan.carryOut disk faults = plan.verify disk faults := by
  rw [carryOut, hm]

theorem carryOut_of_emit (hm : plan.mode = .emit) :
    plan.carryOut disk faults = plan.emit disk faults := by
  rw [carryOut, hm]

/-- The text that is read is the expected one exactly if both agree once every CR LF is a line feed.
-/
theorem same_expected_iff : Text.same (some plan.expected) (some existing) = true ↔
    Text.crlfToLf existing = Text.crlfToLf plan.expected := by
  rw [Text.same_iff, eq_comm]

/-- A check of what is up to date is content, after one reading. -/
theorem verify_of_upToDate (hu : plan.UpToDate disk faults) :
    plan.verify disk faults = ⟨.ok false, disk, [.read], [.upToDate plan.declaration]⟩ := by
  obtain ⟨existing, hr, he⟩ := hu
  simp only [verify, hr, same_expected_iff.mpr he, if_true]

/-- A declaration with another text is reported together with the difference. -/
theorem verify_of_different (hr : readDeclaration disk faults plan.declaration = .ok existing)
    (hd : Text.crlfToLf existing ≠ Text.crlfToLf plan.expected) :
    plan.verify disk faults =
      ⟨.error (.declarationOutdated plan.declaration
          (Diff.unified plan.declaration.name (some existing) plan.expected)),
        disk, [.read], []⟩ := by
  simp only [verify, hr, mt same_expected_iff.mp hd, Bool.false_eq_true, if_false]

/-- A check of what is not there says so, and names the file. -/
theorem verify_of_notFound (hr : readDeclaration disk faults plan.declaration = .error cause)
    (hn : cause.SaysNotFound) :
    plan.verify disk faults =
      ⟨.error (.declarationMissing plan.declaration), disk, [.read], []⟩ := by
  obtain ⟨fault, file, rfl, hcode⟩ := hn
  have hf : fault.isNotFound = true := beq_iff_eq.mpr hcode
  simp only [verify, hr, hf, if_true]

/-- Every other failure of the reading is handed on as it is. -/
theorem verify_of_error (hr : readDeclaration disk faults plan.declaration = .error cause)
    (hn : ¬cause.SaysNotFound) :
    plan.verify disk faults = ⟨.error cause, disk, [.read], []⟩ := by
  rcases cause_of_readDeclaration_error hr with ⟨fault, file, rfl⟩ | ⟨fault, rfl⟩ | ⟨bad, rfl⟩
  · have hf : ¬fault.isNotFound = true := fun hf =>
      hn ⟨fault, file, rfl, beq_iff_eq.mp hf⟩
    simp only [verify, hr, hf, Bool.false_eq_true, if_false]
  · simp only [verify, hr]
  · simp only [verify, hr]

/-- Checking reads once and leaves the disk alone. -/
theorem verify_frame (plan : Plan) (disk : Disk) (faults : Faults) :
    (plan.verify disk faults).disk = disk ∧ (plan.verify disk faults).accesses = [.read] := by
  unfold verify
  split
  · split <;> exact ⟨rfl, rfl⟩
  · exact ⟨rfl, rfl⟩
  · split <;> exact ⟨rfl, rfl⟩

/-- To emit what is up to date is to read it. -/
theorem emit_of_upToDate (hu : plan.UpToDate disk faults) :
    plan.emit disk faults = ⟨.ok false, disk, [.read], [.unchanged plan.declaration]⟩ := by
  obtain ⟨existing, hr, he⟩ := hu
  simp only [emit, hr, same_expected_iff.mpr he, if_true]

/-- To emit what is due is to replace it, whatever is noted on the way. -/
theorem emit_of_due (hd : plan.Due disk faults) :
    ∃ notes, plan.emit disk faults = plan.replace disk faults notes := by
  rcases hd with ⟨fault, file, hr⟩ | ⟨fault, hr⟩ | ⟨existing, hr, he⟩
  · exact ⟨[.treatedAsAbsent plan.declaration (.refused fault file)], by
      simp only [emit, hr, Failure.countsAsAbsent, if_true]⟩
  · exact ⟨[.treatedAsAbsent plan.declaration (.undecodable fault)], by
      simp only [emit, hr, Failure.countsAsAbsent, if_true]⟩
  · exact ⟨[], by simp only [emit, hr, mt same_expected_iff.mp he, Bool.false_eq_true,
      if_false]⟩

/-- To emit at a path that the system does not take fails as the reading does. -/
theorem emit_of_barred {bad : PathFault}
    (hb : readDeclaration disk faults plan.declaration = .error (.invalidPath bad)) :
    plan.emit disk faults = ⟨.error (.invalidPath bad), disk, [.read], []⟩ := by
  simp only [emit, hb, Failure.countsAsAbsent, Bool.false_eq_true, if_false]

/-- A write fails before the file is opened and leaves the disk alone, or it fails over the text and
leaves the file empty, or it succeeds with the expected text. -/
theorem replace_cases (plan : Plan) (disk : Disk) (faults : Faults) (notes : List Note) :
    (∃ cause, cause.NotOpened plan.declaration ∧
      plan.replace disk faults notes = ⟨.error cause, disk, [.read, .write], notes⟩) ∨
    (∃ run left, Utf8.encode plan.expected = .error run ∧
      disk.write plan.declaration [] = .ok left ∧
      plan.replace disk faults notes = ⟨.error (.unwritable run), left, [.read, .write], notes⟩) ∨
    ∃ after, writeDeclaration disk faults plan.declaration plan.expected = .ok after ∧
      plan.replace disk faults notes =
        ⟨.ok true, after, [.read, .write], notes ++ [.written plan.declaration]⟩ := by
  unfold replace
  cases hw : writeDeclaration disk faults plan.declaration plan.expected with
  | error failed =>
    obtain ⟨cause, left⟩ := failed
    rcases cases_of_writeDeclaration_error hw with ⟨hk, rfl⟩ | ⟨run, he, rfl, hempty⟩
    · exact Or.inl ⟨cause, hk, rfl⟩
    · exact Or.inr (Or.inl ⟨run, left, he, hempty, rfl⟩)
  | ok after => exact Or.inr (Or.inr ⟨after, rfl, rfl⟩)

/-- A write succeeds exactly if no refusal is to happen, the file can be opened, and the text is
plain. -/
theorem replace_eq_ok_iff {notes : List Note} {written : Bool} :
    (plan.replace disk faults notes).result = .ok written ↔
      written = true ∧ faults.write = none ∧ disk.Opens plan.declaration ∧ plan.expected.Plain := by
  have hr : (plan.replace disk faults notes).result = .ok written ↔ written = true ∧
      ∃ after, writeDeclaration disk faults plan.declaration plan.expected = .ok after := by
    unfold replace
    cases writeDeclaration disk faults plan.declaration plan.expected <;> simp [eq_comm]
  rw [hr]
  simp only [writeDeclaration_eq_ok_iff, Utf8.encode_eq_ok_iff]
  constructor
  · rintro ⟨hw, after, hf, bytes, ⟨hp, -⟩, hdisk⟩
    exact ⟨hw, hf, Disk.exists_write_iff.mp ⟨after, hdisk⟩, hp⟩
  · rintro ⟨hw, hf, ho, hp⟩
    obtain ⟨after, hdisk⟩ := Disk.exists_write_iff.mpr ho
    exact ⟨hw, after, hf, _, ⟨hp, rfl⟩, hdisk⟩

/-- A write fails over the text exactly if the file can be opened and the text has no bytes. -/
theorem replace_eq_unwritable_iff {notes : List Note} {run : Utf8.SurrogateRun} :
    (plan.replace disk faults notes).result = .error (.unwritable run) ↔
      faults.write = none ∧ disk.Opens plan.declaration ∧
        Utf8.encode plan.expected = .error run := by
  have hfault : ∀ fault, Failure.ofAccess plan.declaration fault ≠ .unwritable run := by
    rintro (fault | bad) <;> simp [Failure.ofAccess]
  have hopens : disk.Opens plan.declaration ↔ ∃ after, disk.write plan.declaration [] = .ok after :=
    Disk.exists_write_iff.symm
  rw [hopens]
  unfold replace writeDeclaration
  cases faults.write with
  | some fault => simp
  | none =>
    cases Utf8.encode plan.expected with
    | ok bytes => cases hw : disk.write plan.declaration bytes <;> simp [hw, hfault]
    | error other => cases disk.write plan.declaration [] <;> simp [hfault]

/-- Setting out to write is an access of its own, whatever comes of it. -/
theorem accesses_of_replace (plan : Plan) (disk : Disk) (faults : Faults) (notes : List Note) :
    (plan.replace disk faults notes).accesses = [.read, .write] := by
  unfold replace
  split <;> rfl

/-- A check returns exactly if the declaration is up to date, and never has it written. -/
theorem verify_eq_ok_iff {written : Bool} :
    (plan.verify disk faults).result = .ok written ↔
      written = false ∧ plan.UpToDate disk faults := by
  constructor
  · intro ho
    cases hr : readDeclaration disk faults plan.declaration with
    | error cause =>
      by_cases hn : cause.SaysNotFound
      · rw [verify_of_notFound hr hn] at ho
        cases ho
      · rw [verify_of_error hr hn] at ho
        cases ho
    | ok existing =>
      by_cases he : Text.crlfToLf existing = Text.crlfToLf plan.expected
      · rw [verify_of_upToDate ⟨existing, hr, he⟩] at ho
        cases ho
        exact ⟨rfl, existing, hr, he⟩
      · rw [verify_of_different hr he] at ho
        cases ho
  · rintro ⟨rfl, hu⟩
    rw [verify_of_upToDate hu]

/-- A check fails in one of three ways: the declaration is missing, it has another text, or the
reading fails for a reason of its own. -/
theorem verify_eq_error_iff : (plan.verify disk faults).result = .error cause ↔
    ((∃ found, readDeclaration disk faults plan.declaration = .error found ∧ found.SaysNotFound) ∧
      cause = .declarationMissing plan.declaration) ∨
    (∃ existing, readDeclaration disk faults plan.declaration = .ok existing ∧
      Text.crlfToLf existing ≠ Text.crlfToLf plan.expected ∧
      cause = .declarationOutdated plan.declaration
        (Diff.unified plan.declaration.name (some existing) plan.expected)) ∨
    (readDeclaration disk faults plan.declaration = .error cause ∧ ¬cause.SaysNotFound) := by
  constructor
  · intro hv
    cases hr : readDeclaration disk faults plan.declaration with
    | error found =>
      by_cases hn : found.SaysNotFound
      · rw [verify_of_notFound hr hn] at hv
        cases hv
        exact Or.inl ⟨⟨found, rfl, hn⟩, rfl⟩
      · rw [verify_of_error hr hn] at hv
        cases hv
        exact Or.inr (Or.inr ⟨rfl, hn⟩)
    | ok existing =>
      by_cases he : Text.crlfToLf existing = Text.crlfToLf plan.expected
      · rw [verify_of_upToDate ⟨existing, hr, he⟩] at hv
        cases hv
      · rw [verify_of_different hr he] at hv
        cases hv
        exact Or.inr (Or.inl ⟨existing, rfl, he, rfl⟩)
  · rintro (⟨⟨found, hr, hn⟩, rfl⟩ | ⟨existing, hr, he, rfl⟩ | ⟨hr, hn⟩)
    · rw [verify_of_notFound hr hn]
    · rw [verify_of_different hr he]
    · rw [verify_of_error hr hn]

/-- A check reports a declaration as out of date exactly if the text that is read differs in more
than line ends, and the report shows the difference. -/
theorem verify_outdated_iff {path : Path} {diff : Text} :
    (plan.verify disk faults).result = .error (.declarationOutdated path diff) ↔
      ∃ existing, readDeclaration disk faults plan.declaration = .ok existing ∧
        Text.crlfToLf existing ≠ Text.crlfToLf plan.expected ∧ path = plan.declaration ∧
        diff = Diff.unified plan.declaration.name (some existing) plan.expected := by
  rw [verify_eq_error_iff]
  constructor
  · rintro (⟨-, hc⟩ | ⟨existing, hr, hd, hc⟩ | ⟨hr, -⟩)
    · cases hc
    · cases hc
      exact ⟨existing, hr, hd, rfl, rfl⟩
    · rcases cause_of_readDeclaration_error hr with ⟨_, _, hc⟩ | ⟨_, hc⟩ | ⟨_, hc⟩ <;> cases hc
  · rintro ⟨existing, hr, hd, rfl, rfl⟩
    exact Or.inr (Or.inl ⟨existing, hr, hd, rfl⟩)

/-- No check fails over the text that it expects. -/
theorem cause_of_verify_error (hv : (plan.verify disk faults).result = .error cause)
    (run : Utf8.SurrogateRun) : cause ≠ .unwritable run := by
  rcases verify_eq_error_iff.mp hv with ⟨-, rfl⟩ | ⟨_, -, -, rfl⟩ | ⟨hr, -⟩
  · simp
  · simp
  · rcases cause_of_readDeclaration_error hr with ⟨_, _, rfl⟩ | ⟨_, rfl⟩ | ⟨_, rfl⟩ <;> simp

/-- To emit returns without writing exactly if the declaration is up to date. -/
theorem emit_eq_ok_false_iff :
    (plan.emit disk faults).result = .ok false ↔ plan.UpToDate disk faults := by
  constructor
  · intro ho
    rcases plan.reading_cases disk faults with hu | hd | hb
    · exact hu
    · obtain ⟨notes, hemit⟩ := emit_of_due hd
      rw [hemit] at ho
      exact absurd (replace_eq_ok_iff.mp ho).1 Bool.false_ne_true
    · obtain ⟨bad, hb⟩ := hb
      rw [emit_of_barred hb] at ho
      cases ho
  · intro hu
    rw [emit_of_upToDate hu]

/-- Emitting comes to a result of writing exactly if a write is due and comes to this result. -/
theorem emit_result_iff {result : Except Failure Bool}
    (hk : result ≠ .ok false) (hc : ∀ bad, result ≠ .error (.invalidPath bad)) :
    (plan.emit disk faults).result = result ↔
      plan.Due disk faults ∧ (plan.replace disk faults []).result = result := by
  have hnotes : ∀ notes, (plan.replace disk faults notes).result =
      (plan.replace disk faults []).result := by
    intro notes
    unfold replace
    cases writeDeclaration disk faults plan.declaration plan.expected <;> rfl
  constructor
  · intro hr
    rcases plan.reading_cases disk faults with hu | hd | hb
    · rw [emit_of_upToDate hu] at hr
      exact absurd hr.symm hk
    · obtain ⟨notes, hemit⟩ := emit_of_due hd
      rw [hemit, hnotes] at hr
      exact ⟨hd, hr⟩
    · obtain ⟨bad, hb⟩ := hb
      rw [emit_of_barred hb] at hr
      exact absurd hr.symm (hc bad)
  · rintro ⟨hd, hr⟩
    obtain ⟨notes, hemit⟩ := emit_of_due hd
    rw [hemit, hnotes]
    exact hr

/-- Emitting writes the declaration exactly if a write is due, the file can be opened for it, and
the text is plain. -/
theorem emit_eq_ok_true_iff : (plan.emit disk faults).result = .ok true ↔
    plan.Due disk faults ∧ faults.write = none ∧ disk.Opens plan.declaration ∧
      plan.expected.Plain := by
  rw [emit_result_iff (by simp) (by simp), replace_eq_ok_iff]
  exact and_congr_right fun _ => and_iff_right rfl

/-- Emitting fails over the text exactly if a write is due, the file can be opened for it, and the
text has no bytes. -/
theorem emit_eq_unwritable_iff {run : Utf8.SurrogateRun} :
    (plan.emit disk faults).result = .error (.unwritable run) ↔
      plan.Due disk faults ∧ faults.write = none ∧ disk.Opens plan.declaration ∧
        Utf8.encode plan.expected = .error run := by
  rw [emit_result_iff (by simp) (by simp), replace_eq_unwritable_iff]

/-- An emission fails over the file, which keeps what it has, or over surrogates in the text: none
of its failures speaks of what the declaration says. -/
theorem cause_of_emit_error (he : (plan.emit disk faults).result = .error cause) :
    cause.NotOpened plan.declaration ∨ ∃ run, cause = .unwritable run := by
  rcases plan.reading_cases disk faults with hu | hd | hb
  · rw [emit_of_upToDate hu] at he
    cases he
  · obtain ⟨notes, hemit⟩ := emit_of_due hd
    rw [hemit] at he
    rcases plan.replace_cases disk faults notes with
      ⟨other, hk, hf⟩ | ⟨run, left, -, -, hf⟩ | ⟨after, -, hf⟩
    · rw [hf] at he
      cases he
      exact Or.inl hk
    · rw [hf] at he
      cases he
      exact Or.inr ⟨run, rfl⟩
    · rw [hf] at he
      cases he
  · obtain ⟨bad, hb⟩ := hb
    rw [emit_of_barred hb] at he
    cases he
    exact Or.inl (Or.inr ⟨bad, of?_of_readDeclaration hb, rfl⟩)

/-- An emission reads once, and it writes thereafter exactly if a write is due. -/
theorem emit_accesses (plan : Plan) (disk : Disk) (faults : Faults) :
    (plan.Due disk faults ∧ (plan.emit disk faults).accesses = [.read, .write]) ∨
    (¬plan.Due disk faults ∧ (plan.emit disk faults).accesses = [.read]) := by
  rcases plan.reading_cases disk faults with hu | hd | hb
  · rw [emit_of_upToDate hu]
    exact Or.inr ⟨not_due_of_upToDate hu, rfl⟩
  · obtain ⟨notes, hemit⟩ := emit_of_due hd
    rw [hemit]
    exact Or.inl ⟨hd, plan.accesses_of_replace disk faults notes⟩
  · obtain ⟨bad, hb⟩ := hb
    rw [emit_of_barred hb]
    exact Or.inr ⟨not_due_of_barred ⟨bad, hb⟩, rfl⟩

end Plan

/-! ## From plans to requests -/

/-- Without a plan nothing is touched. -/
theorem reconcile_of_plan_error (disk : Disk) (hp : request.plan = .error cause) :
    reconcile disk request = ⟨.error cause, disk, [], []⟩ := by
  simp only [reconcile, hp]

/-- With a plan, all that can be told of a request is told by carrying the plan out. -/
theorem reconcile_of_plan (disk : Disk) (hp : request.plan = .ok plan) :
    (reconcile disk request).result =
      (plan.carryOut disk request.faults).result.map (plan.outcome request) ∧
    (reconcile disk request).disk = (plan.carryOut disk request.faults).disk ∧
    (reconcile disk request).accesses = (plan.carryOut disk request.faults).accesses := by
  simp only [reconcile, hp, and_self]

theorem map_outcome_eq_ok_iff {result : Except Failure Bool} {outcome : Outcome} :
    result.map (plan.outcome request) = .ok outcome ↔
      ∃ written, result = .ok written ∧ outcome = plan.outcome request written := by
  cases result with
  | error cause => simp only [Except.map, reduceCtorEq, false_and, exists_false]
  | ok written => simp only [Except.map, Except.ok.injEq, exists_eq_left', eq_comm]

theorem map_outcome_eq_error_iff {result : Except Failure Bool} :
    result.map (plan.outcome request) = .error cause ↔ result = .error cause := by
  cases result <;> simp only [Except.map, reduceCtorEq, Except.error.injEq]

/-- A request that returns has a plan, and its outcome is that of the plan. -/
theorem reconcile_eq_ok_iff {outcome : Outcome} :
    (reconcile disk request).result = .ok outcome ↔
      ∃ plan written, request.plan = .ok plan ∧
        (plan.carryOut disk request.faults).result = .ok written ∧
        outcome = plan.outcome request written := by
  cases hp : request.plan with
  | error cause => simp [reconcile_of_plan_error disk hp]
  | ok plan =>
    rw [(reconcile_of_plan disk hp).1, map_outcome_eq_ok_iff]
    simp only [Except.ok.injEq, exists_and_left, exists_eq_left']

/-- An emission whose write is due returns if no refusal is to happen, the file can be opened and
the text is plain. -/
theorem reconcile_of_due (hp : request.plan = .ok plan) (hm : plan.mode = .emit)
    (hd : plan.Due disk request.faults) (hf : request.faults.write = none)
    (ho : disk.Opens plan.declaration) (ht : plan.expected.Plain) :
    (reconcile disk request).result = .ok (plan.outcome request true) := by
  refine reconcile_eq_ok_iff.mpr ⟨plan, true, hp, ?_, rfl⟩
  rw [Plan.carryOut_of_emit hm]
  exact Plan.emit_eq_ok_true_iff.mpr ⟨hd, hf, ho, ht⟩

/-- A reconciliation that comes to an outcome hands the content and the further arguments back
unchanged. -/
theorem reconcile_hands_back {outcome : Outcome}
    (hr : (reconcile disk request).result = .ok outcome) :
    outcome.content = request.content ∧ outcome.passthrough = request.passthrough := by
  obtain ⟨plan, written, -, -, rfl⟩ := reconcile_eq_ok_iff.mp hr
  exact ⟨rfl, rfl⟩

/-- A request fails without a plan, or as its plan does. -/
theorem reconcile_eq_error_iff : (reconcile disk request).result = .error cause ↔
    request.plan = .error cause ∨
    ∃ plan, request.plan = .ok plan ∧
      (plan.carryOut disk request.faults).result = .error cause := by
  cases hp : request.plan with
  | error other =>
    rw [reconcile_of_plan_error disk hp]
    simp only [reduceCtorEq, false_and, exists_false, or_false, Except.error.injEq]
  | ok plan =>
    rw [(reconcile_of_plan disk hp).1, map_outcome_eq_error_iff]
    simp only [reduceCtorEq, false_or, Except.ok.injEq, exists_eq_left']

/-- Options that can be made are those of the request, and nothing else is changed by the host. -/
theorem reconcileGiven_of_options {given : HostOptions} {options : Options} (disk : Disk)
    (ho : given.options = .ok options) :
    reconcileGiven disk given request = reconcile disk { request with options } := by
  rw [reconcileGiven, ho]

/-- So does one whose options a host hands over. -/
theorem reconcileGiven_hands_back {given : HostOptions} {outcome : Outcome}
    (hr : (reconcileGiven disk given request).result = .ok outcome) :
    outcome.content = request.content ∧ outcome.passthrough = request.passthrough := by
  unfold reconcileGiven at hr
  split at hr
  · cases hr
  · obtain ⟨hc, hp⟩ := reconcile_hands_back hr
    exact ⟨hc, hp⟩

end StyleTypings
