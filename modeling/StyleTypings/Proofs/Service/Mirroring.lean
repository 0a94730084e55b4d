import StyleTypings.Proofs.Reconcile.Readings
import StyleTypings.Proofs.Service.Payloads
import StyleTypings.Proofs.Service.Rendering
import StyleTypings.Service.Server

/-!
# The service mirrors the reconciliation

A request that carries a payload has the very effects of the reconciliation of its fields: the same
accesses and the same disk. The status tells the result, one status for each kind of failure that
the service speaks of and one for all others, as long as the answer shows no text with a surrogate;
an answer that does is replaced by that to a failure of the service itself. A body that carries no
payload is answered without an access. Only requests to the route of reconciliation are spoken of.
-/

namespace StyleTypings.Service

/-- The failure is about the configuration. -/
def AboutConfiguration (cause : Failure) : Prop :=
  (∃ given, cause = .invalidMode given) ∨ (∃ file, cause = .malformedConfig file) ∨
    ∃ file, cause = .configNotMapping file

/-- The failure is none that the service speaks of. -/
def Foreign (cause : Failure) : Prop :=
  ¬AboutConfiguration cause ∧ (∀ path, cause ≠ .declarationMissing path) ∧
    ∀ path diff, cause ≠ .declarationOutdated path diff

/-- The answer to the result of reconciling the content, and the failure that is handed on beside
it. -/
inductive Answers (content : Text) :
    Except Failure Outcome → HttpResponse → Option Failure → Prop where
  /-- An outcome is shown with the content as it was given. -/
  | returned (outcome : Outcome) : Answers content (.ok outcome)
      ⟨200, .value (object
        [("status", .text "ok".toText), ("declaration_path", .text outcome.declaration.text),
         ("written", .bool outcome.written), ("keys", .list (outcome.keys.map .text)),
         ("content", .text content)])⟩ none
  /-- A failure about the configuration is shown by its message. -/
  | rejected (cause : Failure) (hc : AboutConfiguration cause) : Answers content (.error cause)
      ⟨400, .value (object [("detail", .text cause.message)])⟩ none
  /-- A missing declaration is shown with its path. -/
  | missing (path : Path) : Answers content (.error (.declarationMissing path))
      ⟨404, .value (object
        [("detail", .text (Failure.declarationMissing path).message),
         ("declaration_path", .text path.text)])⟩ none
  /-- A declaration that is out of date is shown with its path and the difference. -/
  | outdated (path : Path) (diff : Text) :
    Answers content (.error (.declarationOutdated path diff))
      ⟨409, .value (object
        [("detail", .text (Failure.declarationOutdated path diff).message),
         ("declaration_path", .text path.text), ("diff", .text diff)])⟩ none
  /-- Any other failure is not shown, but handed on. -/
  | broken (cause : Failure) (hc : Foreign cause) : Answers content (.error cause)
      ⟨500, .text "Internal Server Error".toText⟩ (some cause)

/-- The texts of a result that its answer shows. -/
def shownTexts (content : Text) : Except Failure Outcome → List Text
  | .ok outcome => outcome.declaration.text :: content :: outcome.keys
  | .error (.invalidMode given) => [given]
  | .error (.malformedConfig file) => [file]
  | .error (.configNotMapping file) => [file]
  | .error (.declarationMissing path) => [path.text]
  | .error (.declarationOutdated path diff) => [path.text, diff]
  | .error _ => []

/-- The answer to a result can be sent: none of the texts that it shows has a surrogate. -/
def Speakable (content : Text) (result : Except Failure Outcome) : Prop :=
  ∀ text ∈ shownTexts content result, text.Plain

/-- The reconciliation of the fields of a payload. -/
def Payload.request (payload : Payload) (strategies : List Strategy) (faults : Faults) : Request :=
  { content := payload.content, resource := payload.resource, options := payload.options,
    strategies, faults }

/-- The object with the four fields of a payload. -/
def Payload.object (payload : Payload) : Value :=
  Service.object
    [("content", .text payload.content), ("resource_path", .text payload.resource),
     ("mode", .text payload.options.mode), ("named_exports", .bool payload.options.namedExports)]

variable {disk : Disk} {strategies : List Strategy} {faults : Faults} {target : Text}
  {body : Option Value} {payload : Payload} {cause : Failure} {result : Except Failure Outcome}
  {response : HttpResponse} {raised : Option Failure} {content : Text} {exchange : Exchange}
  {problems : List Problem}

/-! ## Each status has one kind of result -/

namespace Answers

/-- The answer is 200 exactly if the reconciliation returns. -/
theorem status_ok_iff (ha : Answers content result response raised) :
    response.status = 200 ↔ ∃ outcome, result = .ok outcome := by
  cases ha <;> simp

/-- The answer is 400 exactly if the failure is about the configuration. -/
theorem status_rejected_iff (ha : Answers content result response raised) :
    response.status = 400 ↔ ∃ cause, result = .error cause ∧ AboutConfiguration cause := by
  cases ha with
  | rejected cause hc => simpa using hc
  | broken cause hc => simpa using hc.1
  | _ => simp [AboutConfiguration]

/-- The answer is 404 exactly if the declaration is missing. -/
theorem status_missing_iff (ha : Answers content result response raised) :
    response.status = 404 ↔ ∃ path, result = .error (.declarationMissing path) := by
  cases ha with
  | rejected cause hc => rcases hc with ⟨_, rfl⟩ | ⟨_, rfl⟩ | ⟨_, rfl⟩ <;> simp
  | broken cause hc => simpa using hc.2.1
  | _ => simp

/-- The answer is 409 exactly if the declaration is outdated. -/
theorem status_outdated_iff (ha : Answers content result response raised) :
    response.status = 409 ↔ ∃ path diff, result = .error (.declarationOutdated path diff) := by
  cases ha with
  | rejected cause hc => rcases hc with ⟨_, rfl⟩ | ⟨_, rfl⟩ | ⟨_, rfl⟩ <;> simp
  | broken cause hc => simpa using hc.2.2
  | _ => simp

/-- The answer is 500 exactly if the failure is none that the service knows. -/
theorem status_broken_iff (ha : Answers content result response raised) :
    response.status = 500 ↔ ∃ cause, result = .error cause ∧ Foreign cause := by
  cases ha with
  | rejected cause hc => simp [Foreign, hc]
  | broken cause hc => simpa using hc
  | _ => simp [Foreign]

end Answers

/-! ## Sending -/

/-- The message of a failure about the configuration has a surrogate exactly if the failure cannot
be spoken of. -/
theorem plain_message_iff {cause : Failure} (hc : AboutConfiguration cause) :
    cause.message.Plain ↔ Speakable content (.error cause) := by
  rcases hc with ⟨given, rfl⟩ | ⟨file, rfl⟩ | ⟨file, rfl⟩ <;>
    simp [Failure.message, Speakable, shownTexts, Text.plain_append, Text.plain_toText]

/-- Of a failure that the service does not speak of, nothing is shown. -/
theorem shownTexts_of_foreign {cause : Failure} (hc : Foreign cause) :
    shownTexts content (.error cause) = [] := by
  cases cause with
  | invalidMode given => exact absurd (Or.inl ⟨given, rfl⟩) hc.1
  | malformedConfig file => exact absurd (Or.inr (Or.inl ⟨file, rfl⟩)) hc.1
  | configNotMapping file => exact absurd (Or.inr (Or.inr ⟨file, rfl⟩)) hc.1
  | declarationMissing path => exact absurd rfl (hc.2.1 path)
  | declarationOutdated path diff => exact absurd rfl (hc.2.2 path diff)
  | _ => rfl

/-- An answer can be put into bytes exactly if the texts that it shows can be sent. -/
theorem Answers.exists_bytes_iff (ha : Answers content result response raised) :
    (∃ sent, response.body.bytes = .ok sent) ↔ Speakable content result := by
  cases ha with
  | returned outcome =>
    rw [Body.bytes, Json.exists_bytes_iff]
    simp [object, Json.Sendable, Json.EntriesSendable, Json.allSendable_map_text_iff, Speakable,
      shownTexts, Text.plain_toText, and_comm, and_left_comm]
  | rejected cause hc =>
    rw [Body.bytes, Json.exists_bytes_iff, ← plain_message_iff hc]
    simp [object, Json.Sendable, Json.EntriesSendable, Text.plain_toText]
  | missing path =>
    have hquote : Text.Plain [.char '\x27'] := by decide
    rw [Body.bytes, Json.exists_bytes_iff]
    simp [object, Json.Sendable, Json.EntriesSendable, Speakable, shownTexts, Failure.message,
      Text.plain_append, Text.plain_toText, hquote]
  | outdated path diff =>
    rw [Body.bytes, Json.exists_bytes_iff]
    simp [object, Json.Sendable, Json.EntriesSendable, Speakable, shownTexts, Failure.message,
      Text.plain_append, Text.plain_toText]
  | broken cause hc =>
    have hsent : ∃ sent, (Body.text "Internal Server Error".toText).bytes = .ok sent := ⟨_, rfl⟩
    refine iff_of_true hsent ?_
    rw [Speakable, shownTexts_of_foreign hc]
    exact List.forall_mem_nil _

/-- What becomes of the result of reconciling the content: the answer to it, or none of its own if
that cannot be sent. -/
structure Mirrors (content : Text) (result : Except Failure Outcome) (response : HttpResponse)
    (raised : Option Failure) : Prop where
  /-- The answer shows the result if it can be sent. -/
  shown : Speakable content result → Answers content result response raised
  /-- If it cannot, the answer is that to a failure of the service. -/
  unspeakable : ¬Speakable content result → response = ⟨500, .text "Internal Server Error".toText⟩
  /-- The reconciliation returns. -/
  returned : response.status = 200 ↔
    (∃ outcome, result = .ok outcome) ∧ Speakable content result
  /-- It fails over the configuration. -/
  rejected : response.status = 400 ↔
    (∃ cause, result = .error cause ∧ AboutConfiguration cause) ∧ Speakable content result
  /-- The declaration is missing. -/
  missing : response.status = 404 ↔
    (∃ path, result = .error (.declarationMissing path)) ∧ Speakable content result
  /-- The declaration is out of date. -/
  outdated : response.status = 409 ↔
    (∃ path diff, result = .error (.declarationOutdated path diff)) ∧ Speakable content result
  /-- It fails over anything else, or the answer cannot be sent. -/
  broken : response.status = 500 ↔
    (∃ cause, result = .error cause ∧ Foreign cause) ∨ ¬Speakable content result

/-- An answer that can be rendered is sent as it is. -/
theorem Answers.mirrors (ha : Answers content result response raised)
    (hs : Speakable content result) : Mirrors content result response raised :=
  { shown := fun _ => ha
    unspeakable := fun hn => absurd hs hn
    returned := ha.status_ok_iff.trans (and_iff_left hs).symm
    rejected := ha.status_rejected_iff.trans (and_iff_left hs).symm
    missing := ha.status_missing_iff.trans (and_iff_left hs).symm
    outdated := ha.status_outdated_iff.trans (and_iff_left hs).symm
    broken := ha.status_broken_iff.trans (or_iff_left (not_not_intro hs)).symm }

/-- Where the answer cannot be rendered, an internal error is sent for it. -/
theorem mirrors_broken (hs : ¬Speakable content result) (raised : Option Failure) :
    Mirrors content result broken raised :=
  { shown := fun h => absurd h hs
    unspeakable := fun _ => rfl
    returned := iff_of_false (by decide) fun h => hs h.2
    rejected := iff_of_false (by decide) fun h => hs h.2
    missing := iff_of_false (by decide) fun h => hs h.2
    outdated := iff_of_false (by decide) fun h => hs h.2
    broken := iff_of_true rfl (Or.inr hs) }

/-- Sending changes nothing but the answer. -/
theorem Exchange.sent_effects (exchange : Exchange) :
    exchange.sent.accesses = exchange.accesses ∧ exchange.sent.disk = exchange.disk := by
  unfold sent
  split <;> exact ⟨rfl, rfl⟩

/-- An exchange whose body has bytes is sent as it is. -/
theorem Exchange.sent_of_bytes (hb : ∃ sent, exchange.response.body.bytes = .ok sent) :
    exchange.sent = exchange := by
  obtain ⟨sent, hb⟩ := hb
  rw [Exchange.sent, hb]

/-- An exchange whose body has none is sent as an internal error. -/
theorem Exchange.response_sent_of_no_bytes
    (hb : ¬∃ sent, exchange.response.body.bytes = .ok sent) : exchange.sent.response = broken := by
  rw [Exchange.sent]
  cases he : exchange.response.body.bytes with
  | error cause => rfl
  | ok sent => exact absurd ⟨sent, he⟩ hb

/-- An answer mirrors the result when it is sent. -/
theorem Answers.mirrors_sent (ha : Answers content result exchange.response exchange.raised) :
    Mirrors content result exchange.sent.response exchange.sent.raised := by
  by_cases hs : Speakable content result
  · rw [Exchange.sent_of_bytes (ha.exists_bytes_iff.mpr hs)]
    exact ha.mirrors hs
  · rw [Exchange.response_sent_of_no_bytes fun hb => hs (ha.exists_bytes_iff.mp hb)]
    exact mirrors_broken hs _

/-! ## The service -/

/-- The object with the four fields of a payload carries it. -/
theorem carries_object (payload : Payload) : Carries (some payload.object) payload := by
  let entries : List (Value × Value) :=
    [(.text "content".toText, .text payload.content),
     (.text "resource_path".toText, .text payload.resource),
     (.text "mode".toText, .text payload.options.mode),
     (.text "named_exports".toText, .bool payload.options.namedExports)]
  have hentries : payload.object = .map entries := rfl
  exact ⟨entries, congrArg some hentries,
    { content := by rfl
      resource := by rfl
      mode := Or.inl (by rfl)
      namedExports := Or.inl ⟨_, by rfl, .bool _⟩ }⟩

/-- The service takes the method and the path of its one route to the reconciler. -/
theorem answer_reconcile (ht : pathOf target = Route.reconcile.path) :
    answer disk strategies faults ⟨Route.reconcile.method, target, body⟩ =
      answerReconcile disk strategies faults body := by
  have hroute : Route.ofPath? (pathOf target) = some .reconcile := by
    rw [ht]
    rfl
  simp only [answer, hroute, ne_eq, not_true_eq_false, if_false]

/-- A failure is answered as it should be. -/
theorem answers_failure (content : Text) (cause : Failure) :
    Answers content (.error cause) ((failed? cause).getD broken)
      (if (failed? cause).isSome then none else some cause) := by
  cases cause with
  | invalidMode given => exact .rejected _ (Or.inl ⟨given, rfl⟩)
  | malformedConfig file => exact .rejected _ (Or.inr (Or.inl ⟨file, rfl⟩))
  | configNotMapping file => exact .rejected _ (Or.inr (Or.inr ⟨file, rfl⟩))
  | declarationMissing path => exact .missing path
  | declarationOutdated path diff => exact .outdated path diff
  | _ => exact .broken _ (by simp [Foreign, AboutConfiguration])

/-- For a body that carries a payload, an answer is made to what becomes of the reconciliation. -/
theorem respond_of_carries (disk : Disk) (strategies : List Strategy) (faults : Faults)
    (hc : Carries body payload) :
    let exchange := respond disk strategies faults body
    let run := reconcile disk (payload.request strategies faults)
    exchange.accesses = run.accesses ∧ exchange.disk = run.disk ∧
      Answers payload.content run.result exchange.response exchange.raised := by
  intro exchange run
  have hb := Payload.ofBody_eq_ok_iff.mpr hc
  cases hr : run.result with
  | ok outcome =>
    have hcontent : outcome.content = payload.content := (reconcile_hands_back hr).1
    have hexchange : exchange = ⟨succeeded outcome, run.disk, run.accesses, none⟩ := by
      simp only [run, Payload.request] at hr ⊢
      simp only [exchange, respond, hb, hr]
    rw [hexchange, ← hcontent]
    exact ⟨rfl, rfl, .returned outcome⟩
  | error cause =>
    have hexchange : exchange = ⟨(failed? cause).getD broken, run.disk, run.accesses,
        if (failed? cause).isSome then none else some cause⟩ := by
      simp only [run, Payload.request] at hr ⊢
      simp only [exchange, respond, hb, hr]
      cases failed? cause <;> rfl
    rw [hexchange]
    exact ⟨rfl, rfl, answers_failure payload.content cause⟩

/-- What becomes of a body that carries no payload: nothing is accessed or changed, and the problems
are shown, if their values can be sent. -/
structure Refuses (disk : Disk) (body : Option Value) (exchange : Exchange) : Prop where
  /-- Nothing is accessed. -/
  accesses : exchange.accesses = []
  /-- Nothing is changed. -/
  disk : exchange.disk = disk
  /-- There are problems, and they are shown exactly if their values can be sent. -/
  status : ∃ problems, problems ≠ [] ∧ Payload.ofBody body = .error problems ∧
    (exchange.response.status = 422 ↔ ∀ problem ∈ problems, Json.Sendable problem.input) ∧
    (exchange.response.status = 500 ↔ ¬∀ problem ∈ problems, Json.Sendable problem.input)
  /-- They can if the whole body can. -/
  sendable : (∀ value, body = some value → Json.Sendable value) → exchange.response.status = 422

/-- Problems are shown if they can be sent. -/
theorem exists_bytes_invalid_iff (hc : ∀ problem ∈ problems, Payload.Concerns body problem) :
    (∃ sent, (invalid problems).body.bytes = .ok sent) ↔
      ∀ problem ∈ problems, Json.Sendable problem.input := by
  rw [invalid, Body.bytes, Json.exists_bytes_iff, ← allSendable_map_value_iff hc]
  simp [object, Json.Sendable, Json.EntriesSendable, Text.plain_toText]

/-- A body that fails validation is refused, as far as its problems can be told. -/
theorem refuses_of_problems (disk : Disk) (strategies : List Strategy) (faults : Faults)
    (hb : Payload.ofBody body = .error problems) :
    Refuses disk body (answerReconcile disk strategies faults body) := by
  obtain ⟨hne, hconcern⟩ := Payload.problems_of_ofBody_error hb
  let exchange : Exchange := ⟨invalid problems, disk, [], none⟩
  have hexchange : answerReconcile disk strategies faults body = exchange.sent := by
    rw [answerReconcile, respond, hb]
  have hbytes : (∃ sent, exchange.response.body.bytes = .ok sent) ↔ _ :=
    exists_bytes_invalid_iff hconcern
  have hshown (hs : ∀ problem ∈ problems, Json.Sendable problem.input) :
      exchange.sent.response.status = 422 := by
    rw [Exchange.sent_of_bytes (hbytes.mpr hs)]
    rfl
  have hbroken (hs : ¬∀ problem ∈ problems, Json.Sendable problem.input) :
      exchange.sent.response.status = 500 := by
    rw [Exchange.response_sent_of_no_bytes (mt hbytes.mp hs)]
    rfl
  have hstatus : (exchange.sent.response.status = 422 ↔
        ∀ problem ∈ problems, Json.Sendable problem.input) ∧
      (exchange.sent.response.status = 500 ↔
        ¬∀ problem ∈ problems, Json.Sendable problem.input) := by
    by_cases hs : ∀ problem ∈ problems, Json.Sendable problem.input
    · rw [hshown hs]
      exact ⟨iff_of_true rfl hs, iff_of_false (by decide) (not_not_intro hs)⟩
    · rw [hbroken hs]
      exact ⟨iff_of_false (by decide) hs, iff_of_true rfl hs⟩
  rw [hexchange]
  exact { accesses := exchange.sent_effects.1
          disk := exchange.sent_effects.2
          status := ⟨problems, hne, hb, hstatus⟩
          sendable := fun hv =>
            hstatus.1.mpr fun problem hp => (hconcern problem hp).sendable_input hv }

/-- The service and the reconciliation, for any disk, strategies and refusals, and any body sent to
the route of reconciliation. An object with the four fields of a payload carries it. A body that
carries a payload leads to the accesses and to the disk of the reconciliation of its fields. The
answer shows the outcome with the content as it was given, or the failure, unless a text that it
would show has a surrogate; then nothing is shown. So its status is 200 exactly if the
reconciliation returns, 400 exactly if it fails over the configuration, 404 exactly if the
declaration is missing, 409 exactly if it is out of date, each of them only with an answer that can
be sent, and 500 exactly if it fails over anything else or the answer cannot be sent. With a body
that carries no payload, nothing is accessed or changed, and the status is 422, or 500 if a value
that a problem is about cannot be sent. -/
theorem service_mirrors_reconcile (disk : Disk) (strategies : List Strategy) (faults : Faults)
    (target : Text) (body : Option Value) (ht : pathOf target = Route.reconcile.path) :
    let exchange := answer disk strategies faults ⟨Route.reconcile.method, target, body⟩
    (∀ payload : Payload, Carries (some payload.object) payload) ∧
    (∀ payload, Carries body payload →
      let run := reconcile disk (payload.request strategies faults)
      exchange.accesses = run.accesses ∧ exchange.disk = run.disk ∧
      Mirrors payload.content run.result exchange.response exchange.raised) ∧
    ((¬∃ payload, Carries body payload) → Refuses disk body exchange) := by
  intro exchange
  have hexchange : exchange = answerReconcile disk strategies faults body := answer_reconcile ht
  refine ⟨carries_object, ?_, ?_⟩
  · intro payload hc run
    obtain ⟨haccesses, hdisk, hanswers⟩ := respond_of_carries disk strategies faults hc
    obtain ⟨hsentAccesses, hsentDisk⟩ := (respond disk strategies faults body).sent_effects
    rw [hexchange]
    exact ⟨hsentAccesses.trans haccesses, hsentDisk.trans hdisk, hanswers.mirrors_sent⟩
  · intro hc
    cases hb : Payload.ofBody body with
    | ok payload => exact absurd ⟨payload, Payload.ofBody_eq_ok_iff.mp hb⟩ hc
    | error problems =>
      rw [hexchange]
      exact refuses_of_problems disk strategies faults hb

/-- A check of a declaration that is not there, with a query behind the path and the export choice
left out; a request with a mode that is none and cannot be shown; and a request without a body. -/
theorem service_mirrors_reconcile_missing :
    let target : Text := "/reconcile?a".toText
    let body (mode : Text) : Option Value := some (.map
      [(.text "content".toText, .text []), (.text "resource_path".toText, .text ['a']),
       (.text "mode".toText, .text mode)])
    let exchange (body : Option Value) :=
      answer ⟨[], []⟩ [.fixed [] true []] {} ⟨Route.reconcile.method, target, body⟩
    pathOf target = Route.reconcile.path ∧
      (exchange (body Mode.verify.text)).response.status = 404 ∧
      (exchange (body Mode.verify.text)).accesses = [.read] ∧
      (exchange (body [.surrogate 0])).response.status = 500 ∧
      (exchange (body [.surrogate 0])).accesses = [] ∧
      (exchange none).response.status = 422 ∧ (exchange none).accesses = [] := by
  intro target body exchange
  have ht : pathOf target = Route.reconcile.path := by decide
  have hcarries (mode : Text) : Carries (body mode) ⟨[], ['a'], ⟨mode, false⟩⟩ :=
    ⟨_, rfl, { content := by rfl, resource := by rfl, mode := Or.inl (by rfl),
               namedExports := Or.inr ⟨by rfl, rfl⟩ }⟩
  have hrefused : ¬∃ payload, Carries none payload := by
    rintro ⟨payload, entries, he, -⟩
    cases he
  let run (mode : Text) : Run Outcome :=
    reconcile ⟨[], []⟩ (Payload.request ⟨[], ['a'], ⟨mode, false⟩⟩ [.fixed [] true []] {})
  have hmirrors (mode : Text) : (exchange (body mode)).accesses = (run mode).accesses ∧
      (exchange (body mode)).disk = (run mode).disk ∧
      Mirrors [] (run mode).result (exchange (body mode)).response (exchange (body mode)).raised :=
    (service_mirrors_reconcile ⟨[], []⟩ [.fixed [] true []] {} target (body mode) ht).2.1 _
      (hcarries mode)
  have hrefuses : Refuses ⟨[], []⟩ none (exchange none) :=
    (service_mirrors_reconcile ⟨[], []⟩ [.fixed [] true []] {} target none ht).2.2 hrefused
  obtain ⟨haccesses, -, hverified⟩ := hmirrors Mode.verify.text
  obtain ⟨hnone, -, hstray⟩ := hmirrors [.surrogate 0]
  have hmissing : (run Mode.verify.text).result =
      .error (.declarationMissing ⟨.working, ["a.d.ts".toText]⟩) := rfl
  have hinvalid : (run [.surrogate 0]).result = .error (.invalidMode [.surrogate 0]) := rfl
  rw [hmissing] at hverified
  rw [hinvalid] at hstray
  refine ⟨ht, ?_, haccesses, ?_, hnone, hrefuses.sendable fun _ hn => (nomatch hn),
    hrefuses.accesses⟩
  · exact hverified.missing.mpr ⟨⟨_, rfl⟩, List.forall_mem_singleton.mpr (by decide)⟩
  · refine hstray.broken.mpr (Or.inr fun hs => ?_)
    exact absurd (hs [.surrogate 0] List.mem_cons_self) (by decide)

end StyleTypings.Service
