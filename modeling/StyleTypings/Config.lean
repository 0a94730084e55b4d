import StyleTypings.Options
import StyleTypings.Text.Lines
import StyleTypings.Failure
import StyleTypings.Yaml.Document

/-!
# Configuration

The options of a project, from a file in the project's directory and from the environment. A
path may name the file or the directory it lies in, and may start in a home directory. A file
that does not exist or is blank chooses nothing. A mode in the environment wins over the one in
the file. It only has to be one that can be written out: whether it names a mode is not checked
here, so one that is never used does no harm.
-/

namespace StyleTypings

/-- What a configuration depends on beside the files. -/
structure Environment where
  /-- The home directory of the user. -/
  home : Text
  /-- The home directories of other users, by their names. -/
  homes : List (Text × Text) := []
  /-- The mode chosen in the environment, if one is set. -/
  mode : Option Text
  deriving DecidableEq, Repr

/-- A configuration. -/
structure Config where
  /-- The names of the directory that the configuration belongs to. -/
  root : List Text
  /-- The options it chooses. -/
  options : Options
  deriving DecidableEq, Repr

namespace Config

/-- The name of the file in a project's directory. -/
def fileName : Text := ".cssdts.yml".toText

/-- The home directory of the user with a name, or of the user at hand without one. -/
def homeOf? (environment : Environment) (user : Text) : Option Text :=
  if user.isEmpty then some environment.home else environment.homes.lookup user

/-- A path with a home directory put in for a tilde in front. -/
def expand (environment : Environment) (path : Path) : Except Failure Path :=
  match path.root, path.names with
  | .working, ('~' :: user) :: names =>
    match homeOf? environment user with
    | some home =>
      let home := Path.ofText home
      .ok { home with names := home.names ++ names }
    | none =>
      .error (match PathFault.of? user with
        | some fault => .invalidPath fault
        | none => .noHome)
  | _, _ => .ok path

/-- The names of the configuration file that a path names, which may be a directory. A path that
leads nowhere names a file that does not exist, unless it cannot be asked for. -/
def locate (environment : Environment) (disk : Disk) (path : Path) : Except Failure (List Text) :=
  match expand environment path with
  | .error cause => .error cause
  | .ok path =>
    match disk.locate path with
    | .error (.refused fault) =>
      if fault = .nameTooLong then .error (.refused fault path.text)
      else .ok (disk.resolve path)
    | .error (.invalid fault) => .error (.invalidPath (path.firstFault fault))
    | .ok _ =>
      let names := disk.resolve path
      .ok (if disk.isDirectory path then names ++ [fileName] else names)

/-- The last of the names of a file. -/
def lastName (names : List Text) : Text := names.getLastD []

/-- The text of the file at a path, with its line ends made line feeds. -/
def readText (disk : Disk) (path : Path) : Except Failure Text :=
  match disk.read path with
  | .error fault => .error (.ofAccess path fault)
  | .ok bytes =>
    match Utf8.decode bytes with
    | .error fault => .error (.undecodable fault)
    | .ok text => .ok (Text.universalNewlines text)

/-- The entries of the mapping that a text holds. `name` is the name of its file. -/
def entriesOf (name text : Text) : Except Failure (List (Value × Value)) :=
  if Text.allBlank text then .ok []
  else match Yaml.load text with
    | .error .malformed => .error (.malformedConfig name)
    | .error (.scalar fault) => .error (.scalar fault)
    | .ok .nothing => .ok []
    | .ok (.mapping entries) => .ok entries
    | .ok .other => .error (.configNotMapping name)

/-- The entries of the configuration file with the given names, of which there are none without
it. Names that are too long cannot be asked for. -/
def readEntries (disk : Disk) (names : List Text) : Except Failure (List (Value × Value)) :=
  let path := Disk.pathOf names
  match disk.locate path with
  | .error fault =>
    if fault = .refused .nameTooLong then .error (.ofAccess path fault) else .ok []
  | .ok place =>
    if (disk.entry? place).isNone then .ok []
    else match readText disk path with
      | .error cause => .error cause
      | .ok text => entriesOf (lastName names) text

/-- Entries with the mode of the environment put in, if it has one that is not empty. -/
def override (environment : Environment) (entries : List (Value × Value)) :
    List (Value × Value) :=
  match environment.mode with
  | none | some [] => entries
  | some mode => Options.modeKey.store (.text (Text.strip mode)) entries

/-- Loads the configuration that a path names. -/
def load (environment : Environment) (disk : Disk) (path : Path) : Except Failure Config :=
  match locate environment disk path with
  | .error cause => .error cause
  | .ok names =>
    match readEntries disk names with
    | .error cause => .error cause
    | .ok entries =>
      match (HostOptions.mapping (override environment entries)).options with
      | .error fault => .error (.scalar fault)
      | .ok options => .ok ⟨names.dropLast, options⟩

end Config

end StyleTypings
