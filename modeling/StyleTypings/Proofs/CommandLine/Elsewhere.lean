import StyleTypings.Proofs.CommandLine.Batch
import StyleTypings.Proofs.Disk.Keeping
import StyleTypings.Proofs.Keys.PlainKeys
import StyleTypings.Proofs.Reconcile.Accesses

/-!
# Changes elsewhere

A resource is looked after in the same way when files have changed that it neither reads nor
writes: it comes to the same result and leaves the same at its own place. Only a failure over a
path that leads nowhere may be told by other words, but then it is contained on both disks.
-/

namespace StyleTypings

variable {α β : Type} {first second : Except Failure α} {before after disk : Disk}
  {changed : Place → Prop} {plan : Plan} {request : Request} {path : Path} {place : Place}
  {fault : FileFault} {resource : Text} {options : Options} {compiled : Option Path}

/-- The results are the same, or they are two failures that are contained. -/
def Alike (first second : Except Failure α) : Prop :=
  first = second ∨ ∃ cause other, first = .error cause ∧ second = .error other ∧
    cause.IsContained ∧ other.IsContained

namespace Alike

theorem of_eq (he : second = first) : Alike first second := Or.inl he.symm

/-- Results that are alike stay so when their values are mapped. -/
theorem map (f : α → β) (ha : Alike first second) : Alike (first.map f) (second.map f) := by
  rcases ha with rfl | ⟨cause, other, rfl, rfl, hc, ho⟩
  · exact Or.inl rfl
  · exact Or.inr ⟨cause, other, rfl, rfl, hc, ho⟩

theorem contained_iff (ha : Alike first second) :
    (∀ cause, first = .error cause → cause.IsContained) ↔
      ∀ cause, second = .error cause → cause.IsContained := by
  rcases ha with rfl | ⟨cause, other, rfl, rfl, hc, ho⟩
  · exact Iff.rfl
  · exact iff_of_true (fun _ h => Except.error.inj h ▸ hc) fun _ h => Except.error.inj h ▸ ho

end Alike

/-! ## Paths that lead nowhere -/

/-- A declaration whose path leads nowhere is not read. -/
theorem readDeclaration_of_locate_error {fault : AccessFault}
    (hl : disk.locate path = .error fault) :
    readDeclaration disk {} path = .error (.ofAccess path fault) := by
  simp only [readDeclaration, Disk.read_of_locate_error hl]

/-- Nor is it written, and the disk stays. -/
theorem writeDeclaration_of_locate_error {fault : AccessFault}
    (hl : disk.locate path = .error fault) (text : Text) :
    writeDeclaration disk {} path text = .error (.ofAccess path fault, disk) := by
  cases he : Utf8.encode text <;>
    simp only [writeDeclaration, he, Disk.write_of_locate_error hl]

namespace Plan

/-- A declaration that lies nowhere is a contained failure in both modes. -/
theorem carryOut_of_locate_refused (hl : disk.locate plan.declaration = .error (.refused fault)) :
    ∃ cause, (plan.carryOut disk {}).result = .error cause ∧ cause.IsContained := by
  have hr : readDeclaration disk {} plan.declaration =
      .error (.refused fault plan.declaration.text) := readDeclaration_of_locate_error hl
  cases hm : plan.mode with
  | verify =>
    rw [carryOut_of_verify hm]
    by_cases hn : (Failure.refused fault plan.declaration.text).SaysNotFound
    · rw [verify_of_notFound hr hn]
      exact ⟨_, rfl, rfl⟩
    · rw [verify_of_error hr hn]
      exact ⟨_, rfl, rfl⟩
  | emit =>
    rw [carryOut_of_emit hm]
    obtain ⟨notes, hemit⟩ := emit_of_due (Or.inl ⟨fault, _, hr⟩)
    have hw : writeDeclaration disk {} plan.declaration plan.expected =
        .error (.refused fault plan.declaration.text, disk) :=
      writeDeclaration_of_locate_error hl plan.expected
    rw [hemit, replace, hw]
    exact ⟨_, rfl, rfl⟩

/-- A path that the system does not take is a failure of its own in both modes. -/
theorem carryOut_of_invalid {bad : PathFault}
    (hl : disk.locate plan.declaration = .error (.invalid bad)) :
    (plan.carryOut disk {}).result = .error (.invalidPath bad) := by
  have hr : readDeclaration disk {} plan.declaration = .error (.invalidPath bad) :=
    readDeclaration_of_locate_error hl
  cases hm : plan.mode with
  | verify =>
    rw [carryOut_of_verify hm, verify_of_error hr]
    rintro ⟨_, _, hc, -⟩
    cases hc
  | emit => rw [carryOut_of_emit hm, emit_of_barred hr]

/-! ## Paths that lead somewhere -/

/-- Checking tells the same where the declaration is read alike. -/
theorem verify_result_congr
    (hr : readDeclaration after {} plan.declaration = readDeclaration before {} plan.declaration) :
    (plan.verify after {}).result = (plan.verify before {}).result := by
  cases hb : (plan.verify before {}).result with
  | ok written =>
    have hu := verify_eq_ok_iff.mp hb
    rw [UpToDate, ← hr] at hu
    exact verify_eq_ok_iff.mpr hu
  | error cause =>
    have hf := verify_eq_error_iff.mp hb
    rw [← hr] at hf
    exact verify_eq_error_iff.mpr hf

/-- A declaration is read as before where nothing changed. -/
theorem readDeclaration_elsewhere (hk : Disk.Keeps changed before after)
    (hl : before.locate path = .ok place) (hn : ¬changed place) :
    readDeclaration after {} path = readDeclaration before {} path := by
  simp only [readDeclaration, hk.read_eq hl hn]

/-- Replacing the declaration tells the same and leaves the same. -/
theorem replace_elsewhere (hk : Disk.Keeps changed before after)
    (hl : before.locate plan.declaration = .ok place) (hn : ¬changed place)
    (notes others : List Note) :
    (plan.replace after {} others).result = (plan.replace before {} notes).result ∧
      Disk.entry? (plan.replace after {} others).disk place =
        Disk.entry? (plan.replace before {} notes).disk place := by
  unfold replace writeDeclaration
  dsimp only
  cases Utf8.encode plan.expected with
  | ok bytes =>
    dsimp only
    rcases hk.write_cases hl hn bytes with ⟨fault, hb, ha⟩ | ⟨first, second, hb, ha, he⟩
    · rw [hb, ha]
      exact ⟨rfl, hk.holds hn⟩
    · rw [hb, ha]
      exact ⟨rfl, he⟩
  | error run =>
    dsimp only
    rcases hk.write_cases hl hn [] with ⟨fault, hb, ha⟩ | ⟨first, second, hb, ha, he⟩
    · rw [hb, ha]
      exact ⟨rfl, hk.holds hn⟩
    · rw [hb, ha]
      exact ⟨rfl, he⟩

/-- Emitting tells the same and leaves the same. -/
theorem emit_elsewhere (hk : Disk.Keeps changed before after)
    (hl : before.locate plan.declaration = .ok place) (hn : ¬changed place) :
    (plan.emit after {}).result = (plan.emit before {}).result ∧
      Disk.entry? (plan.emit after {}).disk place =
        Disk.entry? (plan.emit before {}).disk place := by
  have hr := readDeclaration_elsewhere hk hl hn
  rcases plan.reading_cases before {} with hu | hd | hb
  · have ha : plan.UpToDate after {} := by
      rw [UpToDate, hr]
      exact hu
    rw [emit_of_upToDate hu, emit_of_upToDate ha]
    exact ⟨rfl, hk.holds hn⟩
  · have ha : plan.Due after {} := by
      rw [Due, hr]
      exact hd
    obtain ⟨notes, hbefore⟩ := emit_of_due hd
    obtain ⟨others, hafter⟩ := emit_of_due ha
    rw [hbefore, hafter]
    exact replace_elsewhere hk hl hn notes others
  · obtain ⟨bad, hb⟩ := hb
    rw [emit_of_barred hb, emit_of_barred (hr.trans hb)]
    exact ⟨rfl, hk.holds hn⟩

/-- A plan is carried out alike and leaves the same at its place, unless that place has changed. -/
theorem carryOut_elsewhere (hk : Disk.Keeps changed before after)
    (hn : ∀ place, before.locate plan.declaration = .ok place → ¬changed place) :
    Alike (plan.carryOut before {}).result (plan.carryOut after {}).result ∧
      ∀ place, before.locate plan.declaration = .ok place →
        Disk.entry? (plan.carryOut after {}).disk place =
          Disk.entry? (plan.carryOut before {}).disk place := by
  cases hl : before.locate plan.declaration with
  | ok place =>
    suffices hsame : (plan.carryOut after {}).result = (plan.carryOut before {}).result ∧
        Disk.entry? (plan.carryOut after {}).disk place =
          Disk.entry? (plan.carryOut before {}).disk place by
      refine ⟨.of_eq hsame.1, fun other ho => ?_⟩
      cases ho
      exact hsame.2
    cases hm : plan.mode with
    | verify =>
      rw [carryOut_of_verify hm, carryOut_of_verify hm, (plan.verify_frame after {}).1,
        (plan.verify_frame before {}).1]
      exact ⟨verify_result_congr (readDeclaration_elsewhere hk hl (hn place hl)),
        hk.holds (hn place hl)⟩
    | emit =>
      rw [carryOut_of_emit hm, carryOut_of_emit hm]
      exact emit_elsewhere hk hl (hn place hl)
  | error fault =>
    refine ⟨?_, fun place ho => nomatch ho⟩
    obtain ⟨other, ha, hsame⟩ := hk.locate_error hl
    cases fault with
    | invalid bad =>
      rw [(hsame bad).mpr rfl] at ha
      exact .of_eq ((carryOut_of_invalid ha).trans (carryOut_of_invalid hl).symm)
    | refused fault =>
      cases other with
      | invalid bad => exact nomatch (hsame bad).mp rfl
      | refused other =>
        obtain ⟨cause, hb, hc⟩ := carryOut_of_locate_refused hl
        obtain ⟨later, ha, ho⟩ := carryOut_of_locate_refused ha
        exact Or.inr ⟨cause, later, hb, ha, hc, ho⟩

end Plan

/-! ## One resource -/

/-- The declaration of the resource lies at the place. -/
def DeclaresAt (disk : Disk) (resource : Text) (place : Place) : Prop :=
  ∃ declaration, (Path.ofText resource).declaration? = some declaration ∧
    disk.locate declaration = .ok place

/-- A change that is kept away leaves where the declarations stand. -/
theorem Disk.Keeps.declaresAt_iff (hk : Disk.Keeps changed before after) :
    DeclaresAt after resource place ↔ DeclaresAt before resource place := by
  simp only [DeclaresAt, hk.leads]

theorem reconcile_elsewhere (hk : Disk.Keeps changed before after) (hf : request.faults = {})
    (hn : ∀ place, DeclaresAt before request.resource place → ¬changed place) :
    Alike (reconcile before request).result (reconcile after request).result ∧
      ∀ place, DeclaresAt before request.resource place →
        Disk.entry? (reconcile after request).disk place =
          Disk.entry? (reconcile before request).disk place := by
  cases hp : request.plan with
  | error cause =>
    rw [reconcile_of_plan_error before hp, reconcile_of_plan_error after hp]
    exact ⟨.of_eq rfl, fun place hd => hk.holds (hn place hd)⟩
  | ok plan =>
    obtain ⟨hrb, hdb, -⟩ := reconcile_of_plan before hp
    obtain ⟨hra, hda, -⟩ := reconcile_of_plan after hp
    have hpath := (Request.plan_eq_ok_iff.mp hp).2.1
    have hcarried := Plan.carryOut_elsewhere hk fun place hl =>
      hn place ⟨plan.declaration, hpath, hl⟩
    rw [hrb, hra, hdb, hda, hf]
    refine ⟨hcarried.1.map _, fun place hd => hcarried.2 place ?_⟩
    obtain ⟨declaration, hdeclaration, hl⟩ := hd
    rw [hpath] at hdeclaration
    cases hdeclaration
    exact hl

namespace CommandLine

/-- The compiled module is read alike, unless it lies at a place that has changed. -/
theorem readText_elsewhere (hk : Disk.Keeps changed before after)
    (hn : ∀ place, before.locate path = .ok place → ¬changed place) :
    Alike (Config.readText before path) (Config.readText after path) := by
  unfold Config.readText
  cases hl : before.locate path with
  | ok place =>
    rw [hk.read_eq hl (hn place hl)]
    exact Or.inl rfl
  | error fault =>
    obtain ⟨other, ha, hsame⟩ := hk.locate_error hl
    rw [Disk.read_of_locate_error hl, Disk.read_of_locate_error ha]
    cases fault with
    | invalid bad =>
      rw [(hsame bad).mpr rfl]
      exact Or.inl rfl
    | refused fault =>
      cases other with
      | invalid bad => exact nomatch (hsame bad).mp rfl
      | refused other => exact Or.inr ⟨_, _, rfl, rfl, rfl, rfl⟩

/-- A resource is looked after alike, and the same is left at its place, if what has changed is
neither its compiled module nor its declaration. -/
theorem reconcileResource_elsewhere (options : Options) (hk : Disk.Keeps changed before after)
    (hc : ∀ place, before.locate (compiledPath compiled resource) = .ok place → ¬changed place)
    (hn : ∀ place, DeclaresAt before resource place → ¬changed place) :
    Alike (reconcileResource before options compiled resource).result
        (reconcileResource after options compiled resource).result ∧
      ∀ place, DeclaresAt before resource place →
        Disk.entry? (reconcileResource after options compiled resource).disk place =
          Disk.entry? (reconcileResource before options compiled resource).disk place := by
  unfold reconcileResource
  rcases readText_elsewhere hk hc with heq | ⟨cause, other, hb, ha, hcause, hother⟩
  · rw [← heq]
    cases Config.readText before (compiledPath compiled resource) with
    | error cause => exact ⟨Or.inl rfl, fun place hd => hk.holds (hn place hd)⟩
    | ok content => exact reconcile_elsewhere hk rfl hn
  · rw [hb, ha]
    exact ⟨Or.inr ⟨cause, other, rfl, rfl, hcause, hother⟩,
      fun place hd => hk.holds (hn place hd)⟩

/-- Looking after a resource changes at most the file of its declaration. -/
theorem keeps_reconcileResource (disk : Disk) (options : Options) (compiled : Option Path)
    (resource : Text) : Disk.Keeps (DeclaresAt disk resource) disk
      (reconcileResource disk options compiled resource).disk := by
  unfold reconcileResource
  cases Config.readText disk (compiledPath compiled resource) with
  | error cause => exact .refl _ _
  | ok content =>
    dsimp only
    cases hp : Request.plan { content, resource, options } with
    | error cause =>
      rw [reconcile_of_plan_error disk hp]
      exact .refl _ _
    | ok plan =>
      have hpath := (Request.plan_eq_ok_iff.mp hp).2.1
      rw [(reconcile_of_plan disk hp).2.1]
      rcases plan.carryOut_cases disk {} with
        ⟨_, -, -, hd⟩ | ⟨_, -, hempty⟩ | ⟨-, -, hd⟩ | ⟨-, hw⟩
      · rw [hd]
        exact .refl _ _
      · exact (Disk.keeps_write hempty).mono fun place hl => ⟨plan.declaration, hpath, hl⟩
      · rw [hd]
        exact .refl _ _
      · obtain ⟨-, bytes, -, hwrite⟩ := writeDeclaration_eq_ok_iff.mp hw
        exact (Disk.keeps_write hwrite).mono fun place hl => ⟨plan.declaration, hpath, hl⟩

/-- What a resource with a plain compiled module should declare is plain. -/
theorem plain_expected {content : Text} (hc : content.Plain)
    (hp : Request.plan { content, resource, options } = .ok plan) : plan.expected.Plain := by
  obtain ⟨-, -, found, hs, hk, hexpected, -⟩ := Request.plan_eq_ok_iff.mp hp
  rw [hexpected, hk, Declaration.plain_render_iff]
  exact fun key hkey => Extraction.plain_of_select hc hs key (mem_collectKeys.mp hkey)

/-- A compiled module is the text of a file, so no failure is one over the text of a declaration. -/
theorem cause_of_reconcileResource_error {cause : Failure}
    (hr : (reconcileResource disk options compiled resource).result = .error cause)
    (run : Utf8.SurrogateRun) : cause ≠ .unwritable run := by
  rintro rfl
  unfold reconcileResource at hr
  cases hc : Config.readText disk (compiledPath compiled resource) with
  | error other =>
    rw [hc] at hr
    cases hr
    unfold Config.readText at hc
    split at hc
    · next fault _ => cases fault <;> cases hc
    · split at hc <;> cases hc
  | ok content =>
    rw [hc] at hr
    obtain ⟨plan, -, hp, hmode, -⟩ := emptied_of_unwritable hr
    have hcarried := (map_outcome_eq_error_iff.mp ((reconcile_of_plan disk hp).1.symm.trans hr))
    rw [Plan.carryOut_of_emit hmode] at hcarried
    obtain ⟨-, -, -, hencode⟩ := Plan.emit_eq_unwritable_iff.mp hcarried
    exact Utf8.exists_encode_eq_error_iff.mp ⟨run, hencode⟩
      (plain_expected (Config.plain_of_readText hc) hp)

/-- A resource that cannot be looked after leaves the disk as it was. -/
theorem disk_of_reconcileResource_error {cause : Failure}
    (hr : (reconcileResource disk options compiled resource).result = .error cause) :
    (reconcileResource disk options compiled resource).disk = disk := by
  have hne := cause_of_reconcileResource_error hr
  unfold reconcileResource at hr ⊢
  cases hc : Config.readText disk (compiledPath compiled resource) with
  | error other => rfl
  | ok content =>
    rw [hc] at hr
    exact disk_of_failure hr hne

end CommandLine

end StyleTypings
