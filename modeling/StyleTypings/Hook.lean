import StyleTypings.Reconcile

/-!
# Hooks

Two ways for a build host to have a module's declaration reconciled while the module passes
through. Both hand the content and all further arguments on unchanged. The first returns them
or fails; the second reports by exactly one call of a callback, and a failure of the callback
itself is handed on without a second call.
-/

namespace StyleTypings

/-- What a callback is called with. -/
inductive Report where
  /-- The reconciliation failed. -/
  | failed (cause : Failure)
  /-- The content and the further arguments. -/
  | passed (content : Text) (rest : List Value)

/-- Reconciles with the options of the host, and returns the content with the further arguments. -/
def load (disk : Disk) (given : HostOptions) (request : Request) : Run (Text × List Value) :=
  let run := reconcileGiven disk given request
  { run with result := run.result.map fun outcome => (outcome.content, outcome.passthrough) }

/-- Reconciles, and reports to the callback, which works on a state of its own and may fail. -/
def loadAsync {σ ε : Type} (callback : Report → σ → Except ε Unit × σ) (disk : Disk)
    (given : HostOptions) (request : Request) (state : σ) :
    (Except ε Unit × σ) × Run (Text × List Value) :=
  let run := load disk given request
  match run.result with
  | .error cause => (callback (.failed cause) state, run)
  | .ok (content, rest) => (callback (.passed content rest) state, run)

end StyleTypings
