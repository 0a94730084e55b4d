import StyleTypings.Proofs.Log.Outlets

/-!
# Sessions

In a session the logger is configured again and again, and records are written in between. What a
record leaves depends on the latest configuration alone: not on earlier ones, and not on what was
written before. So however often the logger is configured anew, no record is lost and none is
written twice, and a file that is opened again goes on where it ended.
-/

namespace StyleTypings.Log

/-- A step of a session. -/
inductive Step where
  /-- Configures the logger anew. -/
  | configure (setup : Setup)
  /-- Writes a record of the given level for a part of the package at a time. -/
  | record (time : Text) (part : Option Text) (level : Level) (message : Text)

/-- How a session stands. -/
structure Session where
  /-- The logger. -/
  log : Log
  /-- The disk. -/
  disk : Disk
  /-- What each step showed on the console, or the failure that it ended with, in order. -/
  answers : List (Except Failure Text)

namespace Session

/-- A session begins with a logger that was never configured. -/
def start (disk : Disk) : Session := ⟨{}, disk, []⟩

/-- Takes one step. A record that cannot be written leaves the logger and the disk as they were, and
the session goes on. -/
def take (session : Session) : Step → Except Failure Session
  | .configure setup =>
    match session.log.configure session.disk setup.verbose setup.quiet setup.file with
    | .error cause => .error cause
    | .ok (log, disk) => .ok ⟨log, disk, session.answers ++ [.ok []]⟩
  | .record time part level message =>
    let written := session.log.write session.disk time part level message
    .ok ⟨session.log, diskBehind session.disk written,
      session.answers ++ [written.map Prod.fst]⟩

end Session

namespace Step

/-- The step can be taken on a disk: a file that is asked for can be opened, and the name of a part
does not begin with a dot. -/
def Fits (disk : Disk) : Step → Prop
  | .configure setup => ∀ path, setup.file = some path → CanOpen disk path
  | .record _ part _ _ => ∀ name, part = some name → name.head? ≠ some (.char '.')

/-- What the logger is configured with behind the step. -/
def behind (current : Option Setup) : Step → Option Setup
  | .configure setup => some setup
  | .record _ _ _ _ => current

/-- What the step comes to: what it shows on the console, or a failure. -/
def comesTo (current : Option Setup) : Step → Except Failure Text
  | .configure _ => .ok []
  | .record time part level message => answer current time ⟨nameOf part, level, message⟩

/-- What the step adds to the file at a place. -/
def adds (disk : Disk) (current : Option Setup) (place : Place) : Step → Text
  | .configure _ => []
  | .record time part level message =>
    filed disk current time ⟨nameOf part, level, message⟩ place

end Step

/-- What the logger is configured with behind steps: the latest configuration counts. -/
def latest (steps : List Step) : Option Setup := steps.foldl Step.behind none

/-- What each step comes to. -/
def answersTo : Option Setup → List Step → List (Except Failure Text)
  | _, [] => []
  | current, step :: steps => step.comesTo current :: answersTo (step.behind current) steps

/-- What steps add to the file at a place, one behind the other. -/
def received (disk : Disk) (place : Place) : Option Setup → List Step → Text
  | _, [] => []
  | current, step :: steps =>
    step.adds disk current place ++ received disk place (step.behind current) steps

/-- A file at the place was asked for. -/
def IsLogFile (disk : Disk) (steps : List Step) (place : Place) : Prop :=
  ∃ setup, Step.configure setup ∈ steps ∧ setup.place? disk = some place

variable {origin disk : Disk} {place : Place} {current : Option Setup} {step : Step}
  {steps earlier : List Step}

/-- A session that took steps on a disk kept its records. -/
structure Session.Keeps (disk : Disk) (steps : List Step) (session : Session) : Prop where
  /-- The logger is as the latest configuration says, or was never configured. -/
  log_eq : session.log = (latest steps).elim {} (·.log disk)
  /-- Each step showed on the console what it has to show, or failed over its level. -/
  answers_eq : session.answers = answersTo none steps
  /-- Each file that was asked for holds what it held at the beginning, and behind it the lines of
  the records, in order. -/
  file?_eq : ∀ place, IsLogFile disk steps place →
    ∃ lines, Utf8.encode (received disk place none steps) = .ok lines ∧
      session.disk.file? place = some ((disk.file? place).getD [] ++ lines)
  /-- Everything else is as it was. -/
  entry?_eq : ∀ place, ¬IsLogFile disk steps place →
    session.disk.entry? place = disk.entry? place

end StyleTypings.Log
