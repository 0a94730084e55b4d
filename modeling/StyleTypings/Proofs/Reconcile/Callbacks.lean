import StyleTypings.Hook
import StyleTypings.Proofs.Reconcile.Accesses

/-!
# One call of the callback

The hook that reports calls its callback once, whatever the reconciliation and the callback come
to. How often and with what a callback is called is seen from a callback that writes down each
report before it does anything else; since a callback works on a state of its own, writing down
does not change what it does. The report depends on the request and the disk only, and so do the
accesses and the disk that is left.
-/

namespace StyleTypings

variable {σ ε : Type}

/-- The report that the result of a run calls for. A result that is no failure must be the content
and the further arguments of the request. -/
inductive Report.Tells (request : Request) : Except Failure (Text × List Value) → Report → Prop
  /-- A failure is reported with its cause. -/
  | failed (cause : Failure) : Tells request (.error cause) (.failed cause)
  /-- Otherwise the content and the further arguments are reported as they were given. -/
  | passed : Tells request (.ok (request.content, request.passthrough))
      (.passed request.content request.passthrough)

/-- The callback, with each report written down before it is handed on. -/
def recording (callback : Report → σ → Except ε Unit × σ) (report : Report)
    (state : List Report × σ) : Except ε Unit × List Report × σ :=
  let answer := callback report state.2
  (answer.1, state.1 ++ [report], answer.2)

/-- What is returned by the hook that returns. -/
theorem load_result (disk : Disk) (given : HostOptions) (request : Request) :
    (load disk given request).result = (reconcileGiven disk given request).result.map fun _ =>
      (request.content, request.passthrough) := by
  cases hr : (reconcileGiven disk given request).result with
  | error cause => rw [load, hr]; rfl
  | ok outcome =>
    obtain ⟨hc, hp⟩ := reconcileGiven_hands_back hr
    rw [load, hr, ← hc, ← hp]
    rfl

/-- There is a report that the run of a request calls for, and for every callback the hook comes
to calling it with this report. -/
theorem exists_report (disk : Disk) (given : HostOptions) (request : Request) : ∃ report : Report,
    report.Tells request (load disk given request).result ∧
    ∀ {σ ε : Type} (callback : Report → σ → Except ε Unit × σ) (state : σ),
      loadAsync callback disk given request state =
        (callback report state, load disk given request) := by
  cases hr : (reconcileGiven disk given request).result with
  | error cause =>
    have hl : (load disk given request).result = .error cause := by rw [load_result, hr]; rfl
    refine ⟨.failed cause, hl ▸ .failed cause, fun callback state => ?_⟩
    simp only [loadAsync, hl]
  | ok outcome =>
    have hl : (load disk given request).result = .ok (request.content, request.passthrough) := by
      rw [load_result, hr]
      rfl
    refine ⟨.passed request.content request.passthrough, hl ▸ .passed, fun callback state => ?_⟩
    simp only [loadAsync, hl]

/-- For every disk, request, options and callback: the callback is called with one report, the one
that the result of the hook that returns calls for; what the callback answers, a failure of its
own included, is the answer of the whole, and nothing happens behind it. Accesses and disk are
those of the hook that returns, and so of the reconciliation. -/
theorem loadAsync_calls_once (callback : Report → σ → Except ε Unit × σ) (disk : Disk)
    (given : HostOptions) (request : Request) (state : σ) :
    let returned := load disk given request
    ∃ report : Report, report.Tells request returned.result ∧
      loadAsync callback disk given request state = (callback report state, returned) ∧
      loadAsync (recording callback) disk given request ([], state) =
        (((callback report state).1, [report], (callback report state).2), returned) ∧
      returned.accesses = (reconcileGiven disk given request).accesses ∧
      returned.disk = (reconcileGiven disk given request).disk := by
  obtain ⟨report, htells, hcall⟩ := exists_report disk given request
  exact ⟨report, htells, hcall callback state, hcall (recording callback) ([], state), rfl, rfl⟩

end StyleTypings
