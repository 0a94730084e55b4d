import StyleTypings.Log
import StyleTypings.Proofs.Disk.Keeping
import StyleTypings.Proofs.Disk.Walking
import StyleTypings.Proofs.Text.Encoding

/-!
# Outlets and the files behind them

Configuring opens the file that is asked for, if that can be done, and leaves the logger with its
console outlet and the outlet to this file. A record then goes through each outlet once, or through
none: the file gets the record's line behind all that it holds, or the console is told that it
cannot get it. So from one disk to the next, files are made or lengthened at known places, and
everything else stays.
-/

namespace StyleTypings

variable {disk before middle after : Disk} {path : Path} {place : Place} {content : Bytes}
  {files further : List Place} {added later : Place → Bytes}

namespace Disk

/-- From one disk to the other, files at some places were made, if there were none, and lengthened
by some bytes. -/
structure Lengthened (files : List Place) (added : Place → Bytes) (before after : Disk) : Prop where
  /-- Nothing but these files changed. -/
  keeps : Keeps (· ∈ files) before after
  /-- Each of the files holds what it held, and the bytes behind it. -/
  holds : ∀ place ∈ files,
    after.file? place = some ((before.file? place).getD [] ++ added place)
  /-- The bytes are for these files only. -/
  confined : ∀ place, place ∉ files → added place = []

namespace Lengthened

theorem refl (disk : Disk) : Lengthened [] (fun _ => []) disk disk :=
  { keeps := Keeps.refl _ disk
    holds := fun _ hm => absurd hm List.not_mem_nil
    confined := fun _ _ => rfl }

/-- What is added later stands behind what was added first. -/
theorem trans (hf : Lengthened files added before middle)
    (hs : Lengthened further later middle after) :
    Lengthened (files ++ further) (fun place => added place ++ later place) before after := by
  have hfirst := hf.keeps.mono fun place => List.mem_append_left further
  have hsecond := hs.keeps.mono fun place => List.mem_append_right files
  refine { keeps := hfirst.trans hsecond, holds := ?_, confined := ?_ }
  · intro place hm
    have hmiddle : place ∈ further →
        (middle.file? place).getD [] = (before.file? place).getD [] ++ added place := by
      intro _
      by_cases hp : place ∈ files
      · rw [hf.holds place hp, Option.getD_some]
      · rw [hf.keeps.file?_eq hp, hf.confined place hp, List.append_nil]
    rw [← List.append_assoc]
    by_cases hp : place ∈ further
    · rw [hs.holds place hp, hmiddle hp]
    · have hfile := hf.holds place ((List.mem_append.mp hm).resolve_right hp)
      rw [hs.keeps.file?_eq hp, hfile, hs.confined place hp, List.append_nil]
  · intro place hm
    rw [List.mem_append, not_or] at hm
    rw [hf.confined place hm.1, hs.confined place hm.2, List.append_nil]

end Lengthened

end Disk

namespace Log

/-! ## Opening -/

/-- The file of a path can be opened to be lengthened. -/
def CanOpen (disk : Disk) (path : Path) : Prop :=
  ∃ opened, openFile disk (Disk.pathOf (disk.resolve path)) = .ok opened

/-- What the logger is configured with. -/
structure Setup where
  /-- Whether more messages are wished for. -/
  verbose : Bool
  /-- Whether fewer messages are wished for. -/
  quiet : Bool
  /-- The path of the file, if one is asked for. -/
  file : Option Path

namespace Setup

/-- The threshold, that of details, of warnings or of the usual messages. -/
def level (setup : Setup) : Level :=
  if setup.verbose then 10 else if setup.quiet then 30 else 20

/-- The place of the file. -/
def place? (setup : Setup) (disk : Disk) : Option Place :=
  setup.file.map fun path => .ofNames (disk.resolve path)

/-- The logger that is configured so: it keeps its records to itself, and it has one outlet to the
console and, exactly if a file is asked for, one to the file, all with one threshold. -/
def log (setup : Setup) (disk : Disk) : Log where
  level := some setup.level
  handsOn := false
  outlets := ⟨.console, setup.level⟩ ::
    (setup.place? disk).toList.map fun place => ⟨.file place, setup.level⟩

end Setup

/-- The levels that have a word of their own. -/
def levelWords : List (Level × Text) :=
  [(50, "CRITICAL".toText), (40, "ERROR".toText), (30, "WARNING".toText), (20, "INFO".toText),
    (10, "DEBUG".toText), (0, "NOTSET".toText)]

/-- What a level is called: its word, or else its number. -/
def called (level : Level) : Text :=
  (levelWords.lookup level).getD ("Level ".toText ++ Text.ofInt level)

/-- Words in a line, with blanks between them and a line feed at the end. -/
def lineOf (words : List Text) : Text := Text.join [' '] words ++ [.char '\n']

/-- The line of a record in a file: the time, what the level is called, the name of the logger and
the message. -/
def filedLine (time : Text) (record : Record) : Text :=
  lineOf [time, called record.level, record.logger ++ ":".toText, record.message]

/-- The line of a record on the console: what the level is called, and the message. -/
def printedLine (record : Record) : Text :=
  lineOf ["[cssdts]".toText, called record.level, record.message]

/-- What the console is told about a line for a file: nothing, unless there is a surrogate in it. -/
def complained (line : Text) : Text :=
  match Utf8.encode line with
  | .ok _ => []
  | .error run => lineOf ["--- Logging error ---\nUnicodeEncodeError:".toText, run.message]

/-- The place of the file that was asked for, if one was. -/
def filePlaces (disk : Disk) (current : Option Setup) : List Place :=
  (current.bind (·.place? disk)).toList

/-- The least level of the records that are written: the threshold that was set, and before one was
set, that of a warning. -/
def leastLevel (current : Option Setup) : Level := (current.map (·.level)).getD 30

/-- The record is one that is written: its level reaches the threshold, and can be written out. -/
def Written (current : Option Setup) (record : Record) : Prop :=
  leastLevel current ≤ record.level ∧ record.level.natAbs < tenTo 4300

instance (current : Option Setup) (record : Record) : Decidable (Written current record) :=
  inferInstanceAs (Decidable (_ ∧ _))

/-- What a written record shows on the console: its line and, if there is a file that cannot get its
line, a complaint, and before the logger was configured, the bare message. -/
def shown (time : Text) (record : Record) : Option Setup → Text
  | none => lineOf [record.message]
  | some setup => printedLine record ++
      if setup.file.isSome then complained (filedLine time record) else []

/-- What a call for a record comes to: nothing is shown if its level is too low, and if its level
cannot be written out, the call fails. -/
def answer (current : Option Setup) (time : Text) (record : Record) : Except Failure Text :=
  if record.level < leastLevel current then .ok []
  else if record.level.natAbs < tenTo 4300 then .ok (shown time record current)
  else .error (.scalar .notWritable)

/-- What a record adds to the file at a place: its line, if the record is one that is written, the
file is the one that was asked for and there is no surrogate in the line. -/
def filed (disk : Disk) (current : Option Setup) (time : Text) (record : Record) (place : Place) :
    Text :=
  if Written current record ∧ place ∈ filePlaces disk current ∧ (filedLine time record).Plain then
    filedLine time record
  else []

/-- The disk behind a call, which leaves it as it was if it fails. -/
def diskBehind (disk : Disk) : Except Failure (Text × Disk) → Disk
  | .error _ => disk
  | .ok (_, after) => after

variable {origin : Disk} {current : Option Setup} {setup : Setup} {time : Text} {record : Record}
  {part : Option Text}

/-- The name of the logger for a part: that of the package, and behind a dot the part, if there is
one. -/
def nameOf (part : Option Text) : Text :=
  Text.join ['.'] ("cssdts".toText :: (part.filter (· ≠ [])).toList)

end Log

end StyleTypings
