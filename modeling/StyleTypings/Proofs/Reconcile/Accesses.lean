import StyleTypings.Proofs.Declaration.Lines
import StyleTypings.Proofs.Reconcile.Readings

/-!
# Accesses and what they leave

Without a mode, a path and keys there is no access at all. Else the declaration is read once,
and in one of the modes it may be written thereafter. A request that fails leaves the disk as
it was, with one exception: nothing is written beside the file and put in its place, so a text
that has no bytes is found out only when its file has been opened, and the file is left empty.
A request that returns has changed the file of its declaration or none. The options are taken as
a host hands them over, and any refusal may happen.
-/

namespace StyleTypings

variable {request : Request} {plan : Plan} {disk after : Disk} {faults : Faults} {path : Path}
  {place : Place} {cause : Failure} {given : HostOptions} {surrogates : Utf8.SurrogateRun}

/-- A text can be read only where the path leads to a place. -/
theorem exists_locate_of_readDeclaration {existing : Text}
    (hr : readDeclaration disk faults path = .ok existing) :
    ∃ place, disk.locate path = .ok place := by
  obtain ⟨-, bytes, hb, -⟩ := readDeclaration_eq_ok_iff.mp hr
  unfold Disk.read at hb
  cases hl : disk.locate path with
  | ok place => exact ⟨place, rfl⟩
  | error fault =>
    rw [hl] at hb
    cases hb

/-- What a disk has become when writing a declaration ended right behind the opening of its file:
the file is empty, and no other differs. -/
structure Emptied (declaration : Path) (before after : Disk) (place : Place) : Prop where
  /-- The place is that of the declaration. -/
  located : before.locate declaration = .ok place
  /-- It still is. -/
  stays : after.locate declaration = .ok place
  /-- The file is there and has no bytes. -/
  empty : after.file? place = some []
  /-- No other file has changed. -/
  others : ∀ other, other ≠ place → after.file? other = before.file? other

theorem exists_emptied (hw : disk.write path [] = .ok after) :
    ∃ place, Emptied path disk after place := by
  obtain ⟨place, hl, hs, hempty, hothers⟩ := Disk.file?_write hw
  exact ⟨place, hl, hs, hempty, hothers⟩

/-- Of every result it can be decided whether it is a certain failure. -/
instance {α : Type} (result : Except Failure α) (cause : Failure) :
    Decidable (result = .error cause) :=
  match result with
  | .error other => decidable_of_iff (other = cause) (by rw [Except.error.injEq])
  | .ok _ => .isFalse (by simp)

instance {α : Type} [DecidableEq α] (result : Except Failure α) (value : α) :
    Decidable (result = .ok value) :=
  match result with
  | .ok other => decidable_of_iff (other = value) (by rw [Except.ok.injEq])
  | .error _ => .isFalse (by simp)

/-! ## Plans that are carried out -/

/-- A plan that is carried out fails and leaves the disk, or it fails over its text and leaves an
empty file, or it finds the declaration up to date and leaves the disk, or it writes the expected
text. -/
theorem Plan.carryOut_cases (plan : Plan) (disk : Disk) (faults : Faults) :
    (∃ cause, (∀ run, cause ≠ .unwritable run) ∧
      (plan.carryOut disk faults).result = .error cause ∧
      (plan.carryOut disk faults).disk = disk) ∨
    (∃ run, (plan.carryOut disk faults).result = .error (.unwritable run) ∧
      disk.write plan.declaration [] = .ok (plan.carryOut disk faults).disk) ∨
    (plan.UpToDate disk faults ∧ (plan.carryOut disk faults).result = .ok false ∧
      (plan.carryOut disk faults).disk = disk) ∨
    ((plan.carryOut disk faults).result = .ok true ∧
      writeDeclaration disk faults plan.declaration plan.expected =
        .ok (plan.carryOut disk faults).disk) := by
  cases hm : plan.mode with
  | verify =>
    rw [Plan.carryOut_of_verify hm]
    have hdisk := (plan.verify_frame disk faults).1
    cases hr : (plan.verify disk faults).result with
    | error cause => exact Or.inl ⟨cause, Plan.cause_of_verify_error hr, rfl, hdisk⟩
    | ok written =>
      obtain ⟨rfl, hu⟩ := Plan.verify_eq_ok_iff.mp hr
      exact Or.inr (Or.inr (Or.inl ⟨hu, rfl, hdisk⟩))
  | emit =>
    rw [Plan.carryOut_of_emit hm]
    rcases plan.reading_cases disk faults with hu | hd | hb
    · rw [Plan.emit_of_upToDate hu]
      exact Or.inr (Or.inr (Or.inl ⟨hu, rfl, rfl⟩))
    · obtain ⟨notes, hemit⟩ := Plan.emit_of_due hd
      rw [hemit]
      rcases plan.replace_cases disk faults notes with
        ⟨cause, hc, hf⟩ | ⟨run, left, -, hempty, hf⟩ | ⟨after, hw, hf⟩
      · rw [hf]
        exact Or.inl ⟨cause, hc.ne_unwritable, rfl, rfl⟩
      · rw [hf]
        exact Or.inr (Or.inl ⟨run, rfl, hempty⟩)
      · rw [hf]
        exact Or.inr (Or.inr (Or.inr ⟨rfl, hw⟩))
    · obtain ⟨bad, hb⟩ := hb
      rw [Plan.emit_of_barred hb]
      exact Or.inl ⟨.invalidPath bad, by simp, rfl, rfl⟩

/-! ## Requests -/

/-- Only the writing of a declaration fails over the text of one. -/
theorem Request.ne_unwritable_of_plan_error (hp : request.plan = .error cause) :
    cause ≠ .unwritable surrogates := by
  rcases Request.cause_of_plan_error hp with ⟨_, rfl⟩ | ⟨_, rfl⟩ | ⟨_, rfl⟩ <;> simp

/-- A request that fails leaves the disk as it was, unless it fails over the text of the
declaration. -/
theorem disk_of_failure (hr : (reconcile disk request).result = .error cause)
    (hc : ∀ run, cause ≠ .unwritable run) : (reconcile disk request).disk = disk := by
  rcases reconcile_eq_error_iff.mp hr with hp | ⟨plan, hp, hf⟩
  · rw [reconcile_of_plan_error disk hp]
  · rw [(reconcile_of_plan disk hp).2.1]
    rcases plan.carryOut_cases disk request.faults with
      ⟨_, -, -, hd⟩ | ⟨run, hw, -⟩ | ⟨-, -, hd⟩ | ⟨hok, -⟩
    · exact hd
    · rw [hw] at hf
      exact absurd (Except.error.inj hf).symm (hc run)
    · exact hd
    · rw [hok] at hf
      cases hf

/-- A request that fails over the text of the declaration leaves an empty file. -/
theorem emptied_of_unwritable
    (hr : (reconcile disk request).result = .error (.unwritable surrogates)) :
    ∃ plan place, request.plan = .ok plan ∧ plan.mode = .emit ∧
      Emptied plan.declaration disk (reconcile disk request).disk place := by
  rcases reconcile_eq_error_iff.mp hr with hp | ⟨plan, hp, hf⟩
  · exact absurd rfl (Request.ne_unwritable_of_plan_error hp)
  · have hmode : plan.mode = .emit := by
      cases hm : plan.mode with
      | emit => rfl
      | verify =>
        rw [Plan.carryOut_of_verify hm] at hf
        exact absurd rfl (Plan.cause_of_verify_error hf surrogates)
    rw [(reconcile_of_plan disk hp).2.1]
    rcases plan.carryOut_cases disk request.faults with
      ⟨other, hc, hw, -⟩ | ⟨run, -, hempty⟩ | ⟨-, hok, -⟩ | ⟨hok, -⟩
    · rw [hw] at hf
      exact absurd (Except.error.inj hf) (hc surrogates)
    · obtain ⟨place, he⟩ := exists_emptied hempty
      exact ⟨plan, place, hp, hmode, he⟩
    · rw [hok] at hf
      cases hf
    · rw [hok] at hf
      cases hf

/-- What a disk may have become after a request that returned: at most the file of the
declaration differs, and if it was written it has the bytes of the rendered keys. -/
structure Outcome.Accounts (outcome : Outcome) (namedExports : Bool) (before after : Disk)
    (place : Place) : Prop where
  /-- The place is that of the declaration. -/
  located : before.locate outcome.declaration = .ok place
  /-- It still is. -/
  stays : after.locate outcome.declaration = .ok place
  /-- No other file has changed. -/
  others : ∀ other, other ≠ place → after.file? other = before.file? other
  /-- A change is reported. -/
  reported : after.file? place ≠ before.file? place → outcome.written = true
  /-- What was written is the text of the reported keys. -/
  rendered : outcome.written = true →
    ∃ bytes, Utf8.encode (Declaration.render outcome.keys namedExports) = .ok bytes ∧
      after.file? place = some bytes

/-- A request that returns accounts for all that it changed. -/
theorem exists_accounts {outcome : Outcome} (ho : (reconcile disk request).result = .ok outcome) :
    (Path.ofText request.resource).declaration? = some outcome.declaration ∧
      ∃ place, outcome.Accounts request.options.namedExports disk (reconcile disk request).disk
        place := by
  obtain ⟨plan, written, hp, hr, rfl⟩ := reconcile_eq_ok_iff.mp ho
  obtain ⟨-, hpath, -, -, -, hexpected, -⟩ := Request.plan_eq_ok_iff.mp hp
  refine ⟨hpath, ?_⟩
  rw [(reconcile_of_plan disk hp).2.1]
  rcases plan.carryOut_cases disk request.faults with
    ⟨_, -, hf, -⟩ | ⟨_, hf, -⟩ | ⟨hu, hf, hd⟩ | ⟨hf, hw⟩
  · rw [hf] at hr
    cases hr
  · rw [hf] at hr
    cases hr
  · rw [hf] at hr
    cases hr
    obtain ⟨existing, hread, -⟩ := hu
    obtain ⟨place, hl⟩ := exists_locate_of_readDeclaration hread
    rw [hd]
    exact ⟨place, hl, hl, fun _ _ => rfl, fun hn => absurd rfl hn, fun hn => nomatch hn⟩
  · rw [hf] at hr
    cases hr
    obtain ⟨-, bytes, hbytes, hwrite⟩ := writeDeclaration_eq_ok_iff.mp hw
    obtain ⟨place, hl, hs, hcontent, hothers⟩ := Disk.file?_write hwrite
    rw [hexpected] at hbytes
    exact ⟨place, hl, hs, hothers, fun _ => rfl, fun _ => ⟨bytes, hbytes, hcontent⟩⟩

/-! ## Options that a host hands over -/

end StyleTypings
