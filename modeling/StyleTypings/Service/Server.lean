import StyleTypings.Reconcile
import StyleTypings.Service.Payload
import StyleTypings.Value.Json

/-!
# The service

The service has two routes: one that tells that it is well, and one that reconciles. The status
of an answer tells what became of a reconciliation: 200 when it succeeded, 400 for a bad mode,
404 for a missing declaration, 409 for one that is out of date, and 500 for a failure that is
none of its own. A payload with problems is answered before anything is read. An answer that cannot
be put into bytes comes to nothing: it is replaced by that to a failure of the service itself, after
all that was done for it.
-/

namespace StyleTypings.Service

/-- A request over HTTP. -/
structure HttpRequest where
  /-- The method. -/
  method : Text
  /-- The path, with a query behind it if there is one. -/
  target : Text
  /-- The value in the body, if there is a body. -/
  body : Option Value

/-- The body of an answer. -/
inductive Body where
  /-- A value. -/
  | value (value : Value)
  /-- A text. -/
  | text (text : Text)

/-- An answer over HTTP. -/
structure HttpResponse where
  /-- The status. -/
  status : Nat
  /-- The body. -/
  body : Body

/-- An answer with what came of the request. -/
structure Exchange where
  /-- The answer. -/
  response : HttpResponse
  /-- The disk. -/
  disk : Disk
  /-- The accesses to the declaration. -/
  accesses : List Access
  /-- The failure that the answer does not speak of. -/
  raised : Option Failure

/-- A route of the service. -/
inductive Route where
  /-- Tells whether the service is well. -/
  | health
  /-- Reconciles. -/
  | reconcile
  deriving DecidableEq, Repr

namespace Route

/-- The path of a route. -/
def path : Route → Text
  | health => "/health".toText
  | reconcile => "/reconcile".toText

/-- The method of a route. -/
def method : Route → Text
  | health => "GET".toText
  | reconcile => "POST".toText

/-- All routes. -/
def all : List Route := [health, reconcile]

/-- The route of a path. -/
def ofPath? (path : Text) : Option Route := all.find? (·.path == path)

end Route

/-- The path in a target, without the query behind it. -/
def pathOf (target : Text) : Text := target.takeWhile fun c => c != '?' && c != '#'

/-- A path without the slashes at its end. -/
def withoutSlashes (path : Text) : Text := (path.reverse.dropWhile (· == .char '/')).reverse

/-- An object with the given fields. -/
def object (fields : List (String × Value)) : Value :=
  .map (fields.map fun field => (.text field.1.toText, field.2))

/-- An answer with a message. -/
def detail (status : Nat) (message : Text) : HttpResponse :=
  ⟨status, .value (object [("detail", .text message)])⟩

/-- The answer to a payload with problems. -/
def invalid (problems : List Problem) : HttpResponse :=
  ⟨422, .value (object [("detail", .list (problems.map Problem.value))])⟩

/-- The answer to a reconciliation that succeeded. -/
def succeeded (outcome : Outcome) : HttpResponse :=
  ⟨200, .value (object
    [("status", .text "ok".toText),
     ("declaration_path", .text outcome.declaration.text),
     ("written", .bool outcome.written),
     ("keys", .list (outcome.keys.map .text)),
     ("content", .text outcome.content)])⟩

/-- The answer to a failure, if it is one that the service speaks of. -/
def failed? (cause : Failure) : Option HttpResponse :=
  match cause with
  | .invalidMode _ | .malformedConfig _ | .configNotMapping _ => some (detail 400 cause.message)
  | .declarationMissing path =>
    some ⟨404, .value (object
      [("detail", .text cause.message), ("declaration_path", .text path.text)])⟩
  | .declarationOutdated path diff =>
    some ⟨409, .value (object
      [("detail", .text cause.message), ("declaration_path", .text path.text),
       ("diff", .text diff)])⟩
  | _ => none

/-- The answer to any other failure. -/
def broken : HttpResponse := ⟨500, .text "Internal Server Error".toText⟩

/-- The bytes of a body. -/
def Body.bytes (body : Body) : Except Failure Bytes :=
  match body with
  | .value held => Json.bytes held
  | .text held =>
    match Utf8.encode held with
    | .error run => .error (.unwritable run)
    | .ok bytes => .ok bytes

/-- The exchange with an answer that can be put into bytes. -/
def Exchange.sent (exchange : Exchange) : Exchange :=
  match exchange.response.body.bytes with
  | .ok _ => exchange
  | .error cause => { exchange with response := broken, raised := some cause }

/-- Reconciles for a request, and makes the answer to it. -/
def respond (disk : Disk) (strategies : List Strategy) (faults : Faults)
    (body : Option Value) : Exchange :=
  match Payload.ofBody body with
  | .error problems => ⟨invalid problems, disk, [], none⟩
  | .ok payload =>
    let run := reconcile disk
      { content := payload.content, resource := payload.resource, options := payload.options,
        strategies, faults }
    match run.result with
    | .ok outcome => ⟨succeeded outcome, run.disk, run.accesses, none⟩
    | .error cause =>
      match failed? cause with
      | some response => ⟨response, run.disk, run.accesses, none⟩
      | none => ⟨broken, run.disk, run.accesses, some cause⟩

/-- Answers a request to reconcile. -/
def answerReconcile (disk : Disk) (strategies : List Strategy) (faults : Faults)
    (body : Option Value) : Exchange :=
  (respond disk strategies faults body).sent

/-- Answers a request. A known path with slashes behind it is referred to the path itself. -/
def answer (disk : Disk) (strategies : List Strategy) (faults : Faults)
    (request : HttpRequest) : Exchange :=
  let path := pathOf request.target
  match Route.ofPath? path with
  | none =>
    if path.getLast? = some (.char '/') ∧ (Route.ofPath? (withoutSlashes path)).isSome then
      ⟨⟨307, .text []⟩, disk, [], none⟩
    else ⟨detail 404 "Not Found".toText, disk, [], none⟩
  | some route =>
    if request.method ≠ route.method then
      ⟨detail 405 "Method Not Allowed".toText, disk, [], none⟩
    else match route with
      | .health => ⟨⟨200, .value (object [("status", .text "ok".toText)])⟩, disk, [], none⟩
      | .reconcile => answerReconcile disk strategies faults request.body

end StyleTypings.Service
