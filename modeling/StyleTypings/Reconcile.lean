import StyleTypings.Declaration
import StyleTypings.Diff.Unified
import StyleTypings.Failure
import StyleTypings.Options

/-!
# Reconciliation

One reconciliation brings the declaration beside a resource in line with the compiled text of
the resource, or checks that it is. Nothing is read before the options, the path and the
strategies are found in order; then the declaration is read once, and written at most once.
When the mode is to emit, whatever cannot be read as text is replaced. The run records the
files it tried to open, what it would tell a curious user, and the disk it leaves. A declaration
with a surrogate in it is never written, but its file is emptied first.
-/

namespace StyleTypings

/-- Refusals that are to happen in place of an access. -/
structure Faults where
  /-- What reading the declaration runs into. -/
  read : Option FileFault := none
  /-- What writing the declaration runs into. -/
  write : Option FileFault := none
  deriving DecidableEq, Repr

/-- One use of a declaration file. -/
inductive Access where
  /-- The file was to be read. -/
  | read
  /-- The file was to be written. -/
  | write
  deriving DecidableEq, Repr

/-- A remark on the progress of a reconciliation. -/
inductive Note where
  /-- So many keys were found in the resource by the strategy. -/
  | extracted (count : Nat) (resource strategy : Text)
  /-- The declaration was checked and is in order. -/
  | upToDate (declaration : Path)
  /-- The declaration cannot be read. -/
  | treatedAsAbsent (declaration : Path) (cause : Failure)
  /-- The declaration need not be written. -/
  | unchanged (declaration : Path)
  /-- The declaration was written. -/
  | written (declaration : Path)
  deriving DecidableEq, Repr

/-- The wording of a remark. -/
def Note.message : Note → Text
  | extracted count resource strategy =>
    "Extracted ".toText ++ Text.ofNat count ++ " key(s) from ".toText ++ resource ++
      " using ".toText ++ strategy
  | upToDate declaration => "Declaration ".toText ++ declaration.text ++ " is up to date".toText
  | treatedAsAbsent declaration cause =>
    "Treating ".toText ++ declaration.text ++ " as absent: ".toText ++ cause.message
  | unchanged declaration =>
    "Declaration ".toText ++ declaration.text ++ " unchanged; skipping write".toText
  | written declaration => "Declaration written to ".toText ++ declaration.text

/-- What is to be reconciled. -/
structure Request where
  /-- The compiled text of the module. -/
  content : Text
  /-- The path of the resource. -/
  resource : Text
  /-- Values that are only handed through. -/
  passthrough : List Value := []
  /-- The options. -/
  options : Options := {}
  /-- The strategies, in the order in which they are asked. -/
  strategies : List Strategy := Strategy.defaults
  /-- The refusals that are to happen. -/
  faults : Faults := {}

/-- The result of a reconciliation. -/
structure Outcome where
  /-- The compiled text, as it was given. -/
  content : Text
  /-- The path of the declaration. -/
  declaration : Path
  /-- The declared keys. -/
  keys : List Text
  /-- Whether the declaration was written. -/
  written : Bool
  /-- The values that were handed through. -/
  passthrough : List Value
  deriving Repr

/-- All that can be told of a finished computation on a disk. -/
structure Run (α : Type) where
  /-- Its result. -/
  result : Except Failure α
  /-- The disk it leaves. -/
  disk : Disk
  /-- The accesses it attempted, in order. -/
  accesses : List Access
  /-- Its remarks, in order. -/
  notes : List Note

/-- A plan: the declaration to be looked after, and what it should say. -/
structure Plan where
  /-- What is to be done. -/
  mode : Mode
  /-- The path of the declaration. -/
  declaration : Path
  /-- The declared keys. -/
  keys : List Text
  /-- The text that the declaration should have. -/
  expected : Text
  /-- The name of the strategy that found the keys. -/
  strategy : Text
  deriving DecidableEq, Repr

/-- The plan for a request. Nothing on the disk is needed for it. -/
def Request.plan (request : Request) : Except Failure Plan :=
  match Mode.ofText? request.options.mode with
  | none => .error (.invalidMode request.options.mode)
  | some mode =>
    let resource := Path.ofText request.resource
    match resource.declaration? with
    | none => .error (.noName resource)
    | some declaration =>
      match Extraction.select request.strategies request.content with
      | .error fault => .error (.strategy fault)
      | .ok found =>
        let keys := collectKeys found.keys.toList
        .ok ⟨mode, declaration, keys, Declaration.render keys request.options.namedExports,
          found.strategy⟩

/-- The text of the declaration at a path. -/
def readDeclaration (disk : Disk) (faults : Faults) (path : Path) : Except Failure Text :=
  match faults.read with
  | some fault => .error (.refused fault path.text)
  | none =>
    match disk.read path with
    | .error fault => .error (.ofAccess path fault)
    | .ok bytes =>
      match Utf8.decode bytes with
      | .error fault => .error (.undecodable fault)
      | .ok text => .ok text

/-- The disk after the declaration at a path was written; a failure comes with the disk that it
leaves. The file is opened, and so emptied, before its text is put into bytes: a text that cannot be
written leaves an empty file behind. -/
def writeDeclaration (disk : Disk) (faults : Faults) (path : Path) (text : Text) :
    Except (Failure × Disk) Disk :=
  match faults.write with
  | some fault => .error (.refused fault path.text, disk)
  | none =>
    match Utf8.encode text with
    | .ok bytes =>
      match disk.write path bytes with
      | .error fault => .error (.ofAccess path fault, disk)
      | .ok written => .ok written
    | .error run =>
      match disk.write path [] with
      | .error fault => .error (.ofAccess path fault, disk)
      | .ok emptied => .error (.unwritable run, emptied)

/-- Whether a declaration that could not be read for this reason is simply written anew. -/
def Failure.countsAsAbsent : Failure → Bool
  | .refused _ _ | .undecodable _ => true
  | _ => false

namespace Plan

/-- The outcome of carrying out the plan of a request. -/
def outcome (plan : Plan) (request : Request) (written : Bool) : Outcome :=
  ⟨request.content, plan.declaration, plan.keys, written, request.passthrough⟩

/-- Checks the declaration. -/
def verify (plan : Plan) (disk : Disk) (faults : Faults) : Run Bool :=
  match readDeclaration disk faults plan.declaration with
  | .error (.refused fault file) =>
    if fault.isNotFound then ⟨.error (.declarationMissing plan.declaration), disk, [.read], []⟩
    else ⟨.error (.refused fault file), disk, [.read], []⟩
  | .error cause => ⟨.error cause, disk, [.read], []⟩
  | .ok existing =>
    if Text.same (some plan.expected) (some existing) then
      ⟨.ok false, disk, [.read], [.upToDate plan.declaration]⟩
    else
      ⟨.error (.declarationOutdated plan.declaration
          (Diff.unified plan.declaration.name (some existing) plan.expected)),
        disk, [.read], []⟩

/-- Writes the declaration. -/
def replace (plan : Plan) (disk : Disk) (faults : Faults) (notes : List Note) : Run Bool :=
  match writeDeclaration disk faults plan.declaration plan.expected with
  | .error (cause, left) => ⟨.error cause, left, [.read, .write], notes⟩
  | .ok written => ⟨.ok true, written, [.read, .write], notes ++ [.written plan.declaration]⟩

/-- Writes the declaration unless it is in order. -/
def emit (plan : Plan) (disk : Disk) (faults : Faults) : Run Bool :=
  match readDeclaration disk faults plan.declaration with
  | .error cause =>
    if cause.countsAsAbsent then
      plan.replace disk faults [.treatedAsAbsent plan.declaration cause]
    else ⟨.error cause, disk, [.read], []⟩
  | .ok existing =>
    if Text.same (some plan.expected) (some existing) then
      ⟨.ok false, disk, [.read], [.unchanged plan.declaration]⟩
    else plan.replace disk faults []

/-- Carries out the plan. -/
def carryOut (plan : Plan) (disk : Disk) (faults : Faults) : Run Bool :=
  match plan.mode with
  | .verify => plan.verify disk faults
  | .emit => plan.emit disk faults

end Plan

/-- Reconciles a declaration. -/
def reconcile (disk : Disk) (request : Request) : Run Outcome :=
  match request.plan with
  | .error cause => ⟨.error cause, disk, [], []⟩
  | .ok plan =>
    let run := plan.carryOut disk request.faults
    ⟨run.result.map (plan.outcome request), run.disk, run.accesses,
      .extracted plan.keys.length request.resource plan.strategy :: run.notes⟩

/-- Reconciles a declaration with the options that a host hands over, which come before all else. -/
def reconcileGiven (disk : Disk) (given : HostOptions) (request : Request) : Run Outcome :=
  match given.options with
  | .error fault => ⟨.error (.scalar fault), disk, [], []⟩
  | .ok options => reconcile disk { request with options }

end StyleTypings
