import StyleTypings.Decimal.Powers
import StyleTypings.Failure
import StyleTypings.Text.Numeral

/-!
# Logging

Records go to the console and, if one was asked for, to a file. The package has one logger, and
every other one lies below it by its name. Configuring sets one threshold for the logger and
for all its outlets and replaces the outlets, so a record is written once to each of them or
not at all. A file is only ever lengthened, and a line with a surrogate in it is complained about on
the console instead. As long as nothing was configured, a warning or anything graver is shown bare.
-/

namespace StyleTypings

/-- The weight of a record; graver records have higher levels. -/
abbrev Level := Int

namespace Level

/-- Details of a run. -/
def debug : Level := 10

/-- The usual messages. -/
def info : Level := 20

/-- Something unexpected. -/
def warning : Level := 30

/-- The name of a level; one without a word of its own is named by its number. -/
def text (level : Level) : Text :=
  if level = 50 then "CRITICAL".toText
  else if level = 40 then "ERROR".toText
  else if level = 30 then "WARNING".toText
  else if level = 20 then "INFO".toText
  else if level = 10 then "DEBUG".toText
  else if level = 0 then "NOTSET".toText
  else "Level ".toText ++ Text.ofInt level

/-- Whether the number of a level has no more decimal digits than are written out. -/
def hasText (level : Level) : Bool := level.natAbs < tenTo Numeral.digitLimit

/-- The threshold for the two wishes of a user, of which the one for more wins. -/
def ofWishes (verbose quiet : Bool) : Level :=
  if verbose then debug else if quiet then warning else info

end Level

/-- A message with its level, for the logger of a name. -/
structure Record where
  /-- The name of the logger. -/
  logger : Text
  /-- The level. -/
  level : Level
  /-- The message. -/
  message : Text
  deriving DecidableEq, Repr

namespace Record

/-- The record as a line on the console. -/
def consoleLine (record : Record) : Text :=
  "[cssdts] ".toText ++ record.level.text ++ .char ' ' :: record.message ++ ['\n']

/-- The record as a line in a file, behind the time at which it was written. -/
def fileLine (time : Text) (record : Record) : Text :=
  time ++ .char ' ' :: record.level.text ++ .char ' ' :: record.logger ++ ": ".toText ++
    record.message ++ ['\n']

/-- The record shown bare. -/
def bareLine (record : Record) : Text := record.message ++ ['\n']

end Record

/-- Where an outlet leads to. -/
inductive Sink where
  /-- To the console. -/
  | console
  /-- To the file at a place. -/
  | file (place : Place)
  deriving DecidableEq, Repr

/-- An outlet of the package's logger. -/
structure Outlet where
  /-- Where it leads to. -/
  sink : Sink
  /-- The least level of the records that it lets through. -/
  threshold : Level
  deriving DecidableEq, Repr

namespace Outlet

/-- What the console is told about a line that no file can hold. Only the head and the cause are
kept here; what lies between and behind them speaks of the program's own lines. -/
def complaint (run : Utf8.SurrogateRun) : Text :=
  "--- Logging error ---\nUnicodeEncodeError: ".toText ++ run.message ++ ['\n']

/-- What a record leaves on the console and on the disk through an outlet. -/
def put (time : Text) (record : Record) (written : Text × Disk) (outlet : Outlet) : Text × Disk :=
  if outlet.threshold ≤ record.level then
    match outlet.sink with
    | .console => (written.1 ++ record.consoleLine, written.2)
    | .file place =>
      match Utf8.encode (record.fileLine time) with
      | .error run => (written.1 ++ complaint run, written.2)
      | .ok line =>
        let content := (written.2.file? place).getD []
        (written.1, written.2.set place (.file (content ++ line)))
  else written

end Outlet

/-- The state of the package's logger. -/
structure Log where
  /-- The least level of the records that it takes, once one was configured. -/
  level : Option Level := none
  /-- Whether it hands its records on to the logger above it. -/
  handsOn : Bool := true
  /-- The outlets for the records that it takes. -/
  outlets : List Outlet := []
  deriving DecidableEq, Repr

namespace Log

/-- The name of the package's logger. -/
def packageName : Text := "cssdts".toText

/-- The name of the logger for a part of the package; the package's own without a part. -/
def loggerName : Option Text → Text
  | none | some [] => packageName
  | some part => packageName ++ .char '.' :: part

/-- Whether the logger for a part lies below the package's. The parent of a name is sought at
its dots, from the last one backward, but never at a dot directly before one just tried; so an
odd number of dots in front of the part makes the search miss the package. -/
def isBelow : Option Text → Bool
  | none => true
  | some part => (part.takeWhile (· == .char '.')).length % 2 == 0

/-- The least level of the records that are taken; that of a warning unless another one was
configured. -/
def threshold (log : Log) : Level := log.level.getD .warning

/-- The place of a file that is to be lengthened, and the disk on which it exists; an existing file
keeps its content. -/
def openFile (disk : Disk) (path : Path) : Except Failure (Place × Disk) :=
  match disk.locate path with
  | .error fault => .error (.ofAccess path fault)
  | .ok place =>
    match disk.entry? place with
    | none => .ok (place, disk.set place (.file []))
    | some (.file _) => .ok (place, disk)
    | some .directory => .error (.ofAccess path (.refused .isADirectory))

/-- The logger with all outlets taken away and a threshold set, which keeps its records to
itself. -/
def reset (log : Log) (level : Level) : Log :=
  { log with level := some level, handsOn := false, outlets := [] }

/-- The logger with one more outlet, which has the logger's threshold. -/
def addOutlet (log : Log) (sink : Sink) : Log :=
  { log with outlets := log.outlets ++ [⟨sink, log.threshold⟩] }

/-- The logger that prints to the console alone. -/
def forConsole (verbose quiet : Bool) : Log :=
  (({} : Log).reset (Level.ofWishes verbose quiet)).addOutlet .console

/-- Configures the logger anew. A file that is asked for is opened at once. -/
def configure (log : Log) (disk : Disk) (verbose quiet : Bool) (file : Option Path) :
    Except Failure (Log × Disk) :=
  let log := (log.reset (Level.ofWishes verbose quiet)).addOutlet .console
  match file with
  | none => .ok (log, disk)
  | some path =>
    match openFile disk (Disk.pathOf (disk.resolve path)) with
    | .error cause => .error cause
    | .ok (place, disk) => .ok (log.addOutlet (.file place), disk)

/-- What a record leaves where no outlet is open for it: a warning, or anything graver, is shown
bare. -/
def lastResort (record : Record) : Text :=
  if Level.warning ≤ record.level then record.bareLine else []

/-- The least level of the records that the logger for a part takes. -/
def thresholdFor (log : Log) (part : Option Text) : Level :=
  if isBelow part then log.threshold else .warning

/-- What a record that was taken for a part leaves: what appears on the console, and the disk. -/
def put (log : Log) (disk : Disk) (time : Text) (part : Option Text) (record : Record) :
    Text × Disk :=
  if isBelow part && !log.outlets.isEmpty then
    log.outlets.foldl (Outlet.put time record) ([], disk)
  else (lastResort record, disk)

/-- Writes a record of the given level for a part of the package. The result is what appears on
the console, and the disk. A record that is taken has to have a level that can be named. -/
def write (log : Log) (disk : Disk) (time : Text) (part : Option Text) (level : Level)
    (message : Text) : Except Failure (Text × Disk) :=
  if level < log.thresholdFor part then .ok ([], disk)
  else if level.hasText then .ok (log.put disk time part ⟨loggerName part, level, message⟩)
  else .error (.scalar .notWritable)

end Log

end StyleTypings
