import StyleTypings.Proofs.Reconcile.Accesses

/-!
# The last writing decides

Requests are made one after the other, each on the disk that the one before it leaves. A
request writes one file with the text of the keys that it reports, or it fails over a surrogate
in the text and empties the file, or it leaves the whole disk as it was. So after any sequence of
requests a file holds what the last request that wrote or emptied it has left there, or what it held
before the first of them. Files are told apart by their places, so it does not matter by which
spelling of a path a request reaches one; and no request changes to which place a path leads. What
the files hold while a request is under way is not said here.
-/

namespace StyleTypings

/-- The disk that requests leave when they are made one after the other. -/
def diskAfter (disk : Disk) : List Request → Disk
  | [] => disk
  | request :: later => diskAfter (reconcile disk request).disk later

/-- On the disk `before`, the request writes the file at the place and returns the outcome. -/
structure Request.Writes (request : Request) (before : Disk) (place : Place)
    (outcome : Outcome) : Prop where
  /-- The request emits. -/
  emits : request.options.mode = Mode.emit.text
  /-- It returns. -/
  returns : (reconcile before request).result = .ok outcome
  /-- It says that it has written the declaration. -/
  written : outcome.written = true
  /-- The path of the declaration leads to the place. -/
  located : before.locate outcome.declaration = .ok place

/-- On the disk `before`, the request opens the file at the place for writing and fails over a
surrogate in the text. -/
structure Request.Empties (request : Request) (before : Disk) (place : Place) : Prop where
  /-- The request emits. -/
  emits : request.options.mode = Mode.emit.text
  /-- It fails over the text. -/
  fails : ∃ surrogates, (reconcile before request).result = .error (.unwritable surrogates)
  /-- The path of the declaration leads to the place. -/
  located : ∃ declaration, (Path.ofText request.resource).declaration? = some declaration ∧
    before.locate declaration = .ok place

/-- On the disk `before`, the request puts these bytes into the file at the place. -/
inductive Request.Puts (request : Request) (before : Disk) (place : Place) : Bytes → Prop
  /-- It writes the text of the keys that it reports. -/
  | written {outcome : Outcome} {bytes : Bytes} (hw : request.Writes before place outcome)
      (hb : Utf8.encode (Declaration.render outcome.keys request.options.namedExports) =
        .ok bytes) : Puts request before place bytes
  /-- It fails over a surrogate in the text. -/
  | emptied (he : request.Empties before place) : Puts request before place []

/-- Some request of the sequence puts something into the file at the place. -/
def Touched (disk : Disk) (requests : List Request) (place : Place) : Prop :=
  ∃ earlier request later bytes, requests = earlier ++ request :: later ∧
    request.Puts (diskAfter disk earlier) place bytes

/-- The request puts these bytes into the file at the place, and no later one of the sequence puts
anything there. -/
def LastPutting (disk : Disk) (requests : List Request) (place : Place) (request : Request)
    (bytes : Bytes) : Prop :=
  ∃ earlier later, requests = earlier ++ request :: later ∧
    request.Puts (diskAfter disk earlier) place bytes ∧
    ¬Touched (reconcile (diskAfter disk earlier) request).disk later place

/-- The request checks, or it fails over something other than the text of the declaration, or it
says that it has not written. -/
def Request.Rests (request : Request) (disk : Disk) : Prop :=
  request.options.mode ≠ Mode.emit.text ∨
  (∃ cause, (reconcile disk request).result = .error cause ∧
    ∀ surrogates, cause ≠ .unwritable surrogates) ∨
  ∃ outcome, (reconcile disk request).result = .ok outcome ∧ outcome.written = false

variable {request : Request} {requests earlier later : List Request} {disk : Disk} {path : Path}
  {place : Place} {outcome : Outcome} {bytes : Bytes}

/-! ## What one request does to the files -/

/-- The outcome of a request that writes accounts for all that has changed. -/
theorem Request.Writes.accounts (hw : request.Writes disk place outcome) :
    outcome.Accounts request.options.namedExports disk (reconcile disk request).disk place := by
  obtain ⟨-, target, hacc⟩ := exists_accounts hw.returns
  have ht : target = place := Except.ok.inj (hacc.located.symm.trans hw.located)
  rw [← ht]
  exact hacc

/-- A request that fails over the text of the declaration leaves its file empty, and no other
changed. -/
theorem Request.Empties.exists_emptied (he : request.Empties disk place) :
    ∃ declaration, Emptied declaration disk (reconcile disk request).disk place := by
  obtain ⟨surrogates, hf⟩ := he.fails
  obtain ⟨declaration, hpath, hl⟩ := he.located
  obtain ⟨plan, target, hp, -, hempty⟩ := emptied_of_unwritable hf
  have hd : plan.declaration = declaration :=
    Option.some.inj ((Request.plan_eq_ok_iff.mp hp).2.1.symm.trans hpath)
  rw [hd] at hempty
  have ht : target = place := Except.ok.inj (hempty.located.symm.trans hl)
  rw [ht] at hempty
  exact ⟨declaration, hempty⟩

/-- A request that empties a file has found a key that holds a surrogate. -/
theorem Request.Empties.exists_key (he : request.Empties disk place) :
    ∃ found, Extraction.select request.strategies request.content = .ok found ∧
      ∃ key ∈ found.keys.toList, ¬key.Plain := by
  obtain ⟨surrogates, hf⟩ := he.fails
  rcases reconcile_eq_error_iff.mp hf with hp | ⟨plan, hp, hc⟩
  · exact absurd rfl (Request.ne_unwritable_of_plan_error hp)
  · obtain ⟨-, -, found, hs, hk, hexpected, -⟩ := Request.plan_eq_ok_iff.mp hp
    rw [Plan.carryOut_of_emit (Request.mode_of_plan hp he.emits)] at hc
    obtain ⟨-, -, -, hencode⟩ := Plan.emit_eq_unwritable_iff.mp hc
    have hplain : ¬plan.expected.Plain := Utf8.exists_encode_eq_error_iff.mp ⟨surrogates, hencode⟩
    rw [hexpected, hk, Declaration.plain_render_iff] at hplain
    simp only [mem_collectKeys, Classical.not_forall, exists_prop] at hplain
    exact ⟨found, hs, hplain⟩

/-- What a request puts into a file is there afterwards, and no other file has changed. -/
theorem Request.Puts.frame (hp : request.Puts disk place bytes) :
    (reconcile disk request).disk.file? place = some bytes ∧
      ∀ other, other ≠ place → (reconcile disk request).disk.file? other = disk.file? other := by
  cases hp with
  | written hw hb =>
    obtain ⟨content, hc, hfile⟩ := hw.accounts.rendered hw.written
    rw [hb] at hc
    cases hc
    exact ⟨hfile, hw.accounts.others⟩
  | emptied he =>
    obtain ⟨declaration, hempty⟩ := he.exists_emptied
    exact ⟨hempty.empty, hempty.others⟩

/-- A request either puts something into one file or leaves the disk as it was. -/
theorem Request.puts_or_rests (request : Request) (disk : Disk) :
    (∃ place bytes, request.Puts disk place bytes) ∨
    request.Rests disk ∧ (reconcile disk request).disk = disk := by
  cases hr : (reconcile disk request).result with
  | error cause =>
    by_cases hc : ∃ surrogates, cause = .unwritable surrogates
    · obtain ⟨surrogates, rfl⟩ := hc
      obtain ⟨plan, place, hp, hmode, hempty⟩ := emptied_of_unwritable hr
      obtain ⟨htext, hpath, -⟩ := Request.plan_eq_ok_iff.mp hp
      rw [hmode] at htext
      exact Or.inl ⟨place, [], .emptied
        ⟨htext, ⟨surrogates, hr⟩, plan.declaration, hpath, hempty.located⟩⟩
    · rw [not_exists] at hc
      exact Or.inr ⟨Or.inr (Or.inl ⟨cause, hr, hc⟩), disk_of_failure hr hc⟩
  | ok outcome =>
    obtain ⟨plan, written, hp, hresult, rfl⟩ := reconcile_eq_ok_iff.mp hr
    cases written with
    | false =>
      refine Or.inr ⟨Or.inr (Or.inr ⟨_, hr, rfl⟩), ?_⟩
      rw [(reconcile_of_plan disk hp).2.1]
      rcases plan.carryOut_cases disk request.faults with
        ⟨_, -, hf, -⟩ | ⟨_, hf, -⟩ | ⟨-, -, hd⟩ | ⟨hf, -⟩
      · rw [hf] at hresult
        cases hresult
      · rw [hf] at hresult
        cases hresult
      · exact hd
      · rw [hf] at hresult
        cases hresult
    | true =>
      obtain ⟨-, target, hacc⟩ := exists_accounts hr
      have hmode : plan.mode = .emit := by
        cases hm : plan.mode with
        | emit => rfl
        | verify =>
          rw [Plan.carryOut_of_verify hm] at hresult
          exact absurd (Plan.verify_eq_ok_iff.mp hresult).1 (by decide)
      have htext := (Request.plan_eq_ok_iff.mp hp).1
      rw [hmode] at htext
      obtain ⟨content, hb, -⟩ := hacc.rendered rfl
      exact Or.inl ⟨target, content, .written ⟨htext, hr, rfl, hacc.located⟩ hb⟩

/-- A request that checks, that fails over something else or that says that it has not written puts
nothing into any file. -/
theorem Request.Rests.not_puts (hr : request.Rests disk) : ¬request.Puts disk place bytes := by
  intro hp
  cases hp with
  | written hw _ =>
    rcases hr with hmode | ⟨cause, hf, -⟩ | ⟨second, hf, hwritten⟩
    · exact hmode hw.emits
    · rw [hw.returns] at hf
      cases hf
    · rw [hw.returns] at hf
      cases hf
      exact absurd (hw.written.symm.trans hwritten) (by decide)
  | emptied he =>
    obtain ⟨surrogates, hs⟩ := he.fails
    rcases hr with hmode | ⟨cause, hf, hc⟩ | ⟨second, hf, -⟩
    · exact hmode he.emits
    · rw [hs] at hf
      exact hc surrogates (Except.error.inj hf).symm
    · rw [hs] at hf
      cases hf

theorem Request.Rests.disk_eq (hr : request.Rests disk) : (reconcile disk request).disk = disk := by
  rcases request.puts_or_rests disk with ⟨place, bytes, hp⟩ | ⟨-, hd⟩
  · exact absurd hp hr.not_puts
  · exact hd

/-- A file into which a request puts nothing keeps its bytes. -/
theorem file?_of_not_puts (hn : ∀ bytes, ¬request.Puts disk place bytes) :
    (reconcile disk request).disk.file? place = disk.file? place := by
  rcases request.puts_or_rests disk with ⟨target, bytes, hp⟩ | ⟨-, hd⟩
  · have hne : place ≠ target := by
      rintro rfl
      exact hn bytes hp
    exact hp.frame.2 place hne
  · rw [hd]

/-- A request leaves every path leading to the place that it led to before. -/
theorem locate_reconcile_iff :
    (reconcile disk request).disk.locate path = .ok place ↔ disk.locate path = .ok place := by
  cases hp : request.plan with
  | error cause => rw [reconcile_of_plan_error disk hp]
  | ok plan =>
    rw [(reconcile_of_plan disk hp).2.1]
    rcases plan.carryOut_cases disk request.faults with
      ⟨_, -, -, hd⟩ | ⟨_, -, hempty⟩ | ⟨-, -, hd⟩ | ⟨-, hw⟩
    · rw [hd]
    · exact Disk.locate_write_iff hempty
    · rw [hd]
    · obtain ⟨-, bytes, -, hwrite⟩ := writeDeclaration_eq_ok_iff.mp hw
      exact Disk.locate_write_iff hwrite

/-! ## What a sequence of requests does to the files -/

theorem diskAfter_append (disk : Disk) (earlier later : List Request) :
    diskAfter disk (earlier ++ later) = diskAfter (diskAfter disk earlier) later := by
  induction earlier generalizing disk with
  | nil => rfl
  | cons request earlier ih => exact ih (reconcile disk request).disk

theorem locate_diskAfter_iff :
    (diskAfter disk requests).locate path = .ok place ↔ disk.locate path = .ok place := by
  induction requests generalizing disk with
  | nil => rfl
  | cons request requests ih => exact ih.trans locate_reconcile_iff

/-- Something is put into a file by the first request of a sequence or by a later one. -/
theorem touched_cons_iff : Touched disk (request :: requests) place ↔
    (∃ bytes, request.Puts disk place bytes) ∨
    Touched (reconcile disk request).disk requests place := by
  constructor
  · rintro ⟨earlier, next, later, bytes, he, hp⟩
    cases earlier with
    | nil =>
      cases he
      exact Or.inl ⟨bytes, hp⟩
    | cons first earlier =>
      cases he
      exact Or.inr ⟨earlier, next, later, bytes, rfl, hp⟩
  · rintro (⟨bytes, hp⟩ | ⟨earlier, next, later, bytes, rfl, hp⟩)
    · exact ⟨[], request, requests, bytes, rfl, hp⟩
    · exact ⟨request :: earlier, next, later, bytes, rfl, hp⟩

/-- A file into which no request puts anything keeps its bytes. -/
theorem file?_of_not_touched (hn : ¬Touched disk requests place) :
    (diskAfter disk requests).file? place = disk.file? place := by
  induction requests generalizing disk with
  | nil => rfl
  | cons request requests ih =>
    rw [touched_cons_iff, not_or, not_exists] at hn
    obtain ⟨hfirst, hrest⟩ := hn
    have htail : (diskAfter disk (request :: requests)).file? place =
        (reconcile disk request).disk.file? place := ih hrest
    rw [htail]
    exact file?_of_not_puts hfirst

/-- Into a file that is touched some request is the last to put something. -/
theorem exists_lastPutting (ht : Touched disk requests place) :
    ∃ request bytes, LastPutting disk requests place request bytes := by
  induction requests generalizing disk with
  | nil =>
    obtain ⟨earlier, request, later, bytes, he, -⟩ := ht
    exact absurd he.symm (by simp)
  | cons request requests ih =>
    by_cases hlater : Touched (reconcile disk request).disk requests place
    · obtain ⟨last, bytes, earlier, later, rfl, hlast⟩ := ih hlater
      exact ⟨last, bytes, request :: earlier, later, rfl, hlast⟩
    · obtain ⟨bytes, hfirst⟩ := (touched_cons_iff.mp ht).resolve_right hlater
      exact ⟨request, bytes, [], requests, rfl, hfirst, hlater⟩

/-- A file holds what the last request that puts something into it has put there. -/
theorem LastPutting.file?_eq (hl : LastPutting disk requests place request bytes) :
    (diskAfter disk requests).file? place = some bytes := by
  obtain ⟨earlier, later, rfl, hp, hn⟩ := hl
  rw [diskAfter_append]
  calc (diskAfter (reconcile (diskAfter disk earlier) request).disk later).file? place
      = (reconcile (diskAfter disk earlier) request).disk.file? place := file?_of_not_touched hn
    _ = _ := hp.frame.1

/-- No sequence of requests removes a file. -/
theorem isSome_file?_diskAfter (hf : (disk.file? place).isSome) :
    ((diskAfter disk requests).file? place).isSome := by
  by_cases ht : Touched disk requests place
  · obtain ⟨request, bytes, hl⟩ := exists_lastPutting ht
    rw [hl.file?_eq]
    rfl
  · rw [file?_of_not_touched ht]
    exact hf

/-- A request that rests can be left out of a sequence. -/
theorem diskAfter_leave_out (hr : request.Rests (diskAfter disk earlier)) :
    diskAfter disk (earlier ++ request :: later) = diskAfter disk (earlier ++ later) := by
  rw [diskAfter_append, diskAfter_append, diskAfter, hr.disk_eq]

/-- The files after any sequence of requests, in any modes, under any refusals and by any
spellings of their paths. A file into which no request puts anything holds what it held. A file into
which some request does holds what the last of them has put there: the text of its keys under its
export choice if it wrote, and nothing if it failed over the text; and it fails so only over a
surrogate in a key. A request that checks, that fails over anything else or that says that it has
not written can be left out. No file is removed, and every path leads to the same place before and
after. -/
theorem files_hold_last_writing (disk : Disk) (requests : List Request) (place : Place) :
    let after := diskAfter disk requests
    (¬Touched disk requests place → after.file? place = disk.file? place) ∧
    (Touched disk requests place →
      ∃ request bytes, LastPutting disk requests place request bytes) ∧
    (∀ request bytes, LastPutting disk requests place request bytes →
      after.file? place = some bytes) ∧
    (∀ earlier request later, requests = earlier ++ request :: later →
      (request.Empties (diskAfter disk earlier) place →
        ∃ found, Extraction.select request.strategies request.content = .ok found ∧
          ∃ key ∈ found.keys.toList, ¬key.Plain) ∧
      (request.Rests (diskAfter disk earlier) → after = diskAfter disk (earlier ++ later))) ∧
    ((disk.file? place).isSome → (after.file? place).isSome) ∧
    ∀ path, after.locate path = .ok place ↔ disk.locate path = .ok place := by
  intro after
  refine ⟨file?_of_not_touched, exists_lastPutting, fun request bytes hl => hl.file?_eq, ?_,
    isSome_file?_diskAfter, fun path => locate_diskAfter_iff⟩
  intro earlier request later hsplit
  refine ⟨fun he => he.exists_key, fun hr => ?_⟩
  rw [← diskAfter_leave_out hr, ← hsplit]

/-- Two spellings of one path: what the second request writes is left, though its reading was
refused and a check for the first keys follows. -/
theorem files_hold_last_writing_respelled :
    let disk : Disk := ⟨[], [(.ofNames [['x']], .directory)]⟩
    let request (resource : Text) (mode : Mode) (key : Text) : Request :=
      { content := [], resource := resource, options := ⟨mode.text, false⟩,
        strategies := [.fixed [] true [key]], faults := ⟨some ⟨5, []⟩, none⟩ }
    let first := request "a".toText .emit ['p']
    let second := request "x/../a".toText .emit ['q']
    let third := request "./a".toText .verify ['p']
    let requests := [first, second, third]
    let place : Place := .ofNames ["a.d.ts".toText]
    ∃ bytes, Utf8.encode (Declaration.render [['q']] false) = .ok bytes ∧
      LastPutting disk requests place second bytes ∧
      (diskAfter disk requests).file? place = some bytes := by
  intro disk request first second third requests place
  have hplain : (Declaration.render [['q']] false).Plain :=
    Declaration.plain_render_iff.mpr (by decide)
  obtain ⟨bytes, hbytes⟩ : ∃ bytes, Utf8.encode (Declaration.render [['q']] false) = .ok bytes :=
    ⟨_, Utf8.encode_of_plain hplain⟩
  have hthird : ∀ disk, third.Rests disk := fun disk => Or.inl (by decide)
  have hp : second.plan = .ok ⟨.emit, ⟨.working, [['x'], ['.', '.'], "a.d.ts".toText]⟩, [['q']],
      Declaration.render [['q']] false, []⟩ := rfl
  have hl : (diskAfter disk [first]).locate ⟨.working, [['x'], ['.', '.'], "a.d.ts".toText]⟩ =
      .ok place := locate_diskAfter_iff.mpr rfl
  have hsecond : second.Writes (diskAfter disk [first]) place
      ⟨[], ⟨.working, [['x'], ['.', '.'], "a.d.ts".toText]⟩, [['q']], true, []⟩ :=
    { emits := rfl
      returns :=
        reconcile_of_due hp rfl (Or.inl ⟨_, _, rfl⟩) rfl ⟨place, hl, by decide +kernel⟩ hplain
      written := rfl
      located := hl }
  have hlast : LastPutting disk requests place second bytes := by
    refine ⟨[first], [third], rfl, .written hsecond hbytes, ?_⟩
    rw [touched_cons_iff]
    rintro (⟨_, hp⟩ | ⟨earlier, _, _, _, he, -⟩)
    · exact (hthird _).not_puts hp
    · exact absurd he.symm (by simp)
  obtain ⟨-, -, hput, -, -, -⟩ := files_hold_last_writing disk requests place
  exact ⟨bytes, hbytes, hlast, hput second bytes hlast⟩

/-- A failure can undo a writing: the first request writes one key, and the second, whose key is a
surrogate, fails and leaves nothing of it. -/
theorem failed_emission_undoes_writing :
    let request (resource key : Text) : Request :=
      { content := "export \x7b a as \"".toText ++ key ++ "\" \x7d".toText, resource := resource }
    let first := request "a.css".toText ['k']
    let second := request "./a.css".toText [.surrogate 0]
    let place : Place := .ofNames ["a.css.d.ts".toText]
    first.Writes ⟨[], []⟩ place
        ⟨first.content, ⟨.working, ["a.css.d.ts".toText]⟩, [['k']], true, []⟩ ∧
      (reconcile (diskAfter ⟨[], []⟩ [first]) second).result =
        .error (.unwritable ⟨102, 1, 0⟩) ∧
      (diskAfter ⟨[], []⟩ [first]).file? place ≠ some [] ∧
      (diskAfter ⟨[], []⟩ [first, second]).file? place = some [] := by
  intro request first second place
  have hp : first.plan = .ok ⟨.emit, ⟨.working, ["a.css.d.ts".toText]⟩, [['k']],
      Declaration.render [['k']] false, "named-exports".toText⟩ := rfl
  have hfirst : first.Writes ⟨[], []⟩ place
      ⟨first.content, ⟨.working, ["a.css.d.ts".toText]⟩, [['k']], true, []⟩ :=
    { emits := rfl
      returns := reconcile_of_due hp rfl (Or.inl ⟨.notFound, _, rfl⟩) rfl ⟨place, rfl, by decide⟩
        (Declaration.plain_render_iff.mpr (by decide))
      written := rfl
      located := rfl }
  exact ⟨hfirst, by decide +kernel⟩

end StyleTypings
