import StyleTypings.Path
import StyleTypings.Text.Utf8

/-!
# Files and directories

A disk is a value: the working directory and the files and directories by their places. Names
are kept as bytes, so texts that stand for the same bytes name the same file. A path
is followed name by name, so a name is looked up only in a directory that exists, a double dot
leads to the directory above, and the first step that cannot be taken decides the fault. A file
is written whole; a write that fails changes nothing, which is why it returns no disk.
-/

namespace StyleTypings

/-- A fault reported by the system that holds the files. -/
structure FileFault where
  /-- Its number in the system's table. -/
  code : Int
  /-- Its description. -/
  reason : Text
  deriving DecidableEq, Repr

namespace FileFault

/-- Nothing has this name. -/
def notFound : FileFault := ⟨2, "No such file or directory".toText⟩

/-- A name was looked up in something that is no directory. -/
def notADirectory : FileFault := ⟨20, "Not a directory".toText⟩

/-- A directory was to be read or written as a file. -/
def isADirectory : FileFault := ⟨21, "Is a directory".toText⟩

/-- A name or a path has more bytes than the system takes. -/
def nameTooLong : FileFault := ⟨36, "File name too long".toText⟩

/-- Whether the fault says that the file does not exist. -/
def isNotFound (fault : FileFault) : Bool := fault.code == 2

end FileFault

/-- Why a text is no path for the system. -/
inductive PathFault where
  /-- It holds surrogates for which there are no bytes. -/
  | unwritable (run : Utf8.SurrogateRun)
  /-- It holds a character of code zero, which ends a path. -/
  | null
  deriving DecidableEq, Repr

/-- The fault of a text as a path, if it has one. -/
def PathFault.of? (text : Text) : Option PathFault :=
  match Utf8.encodeName text with
  | .error run => some (.unwritable run)
  | .ok _ => if text.elem (.char '\x00') then some .null else none

/-- Why a file cannot be opened. -/
inductive AccessFault where
  /-- The system refuses. -/
  | refused (fault : FileFault)
  /-- The path is none for the system. -/
  | invalid (fault : PathFault)
  deriving DecidableEq, Repr

namespace Path

/-- The names passed when one more is followed from the given ones. A double dot takes the name
before it away, if there is one to be taken. -/
def follow (root : Root) (names : List Text) (name : Text) : List Text :=
  if name = ['.', '.'] then
    match names.getLast? with
    | none => if root = .working then [name] else []
    | some last => if last = ['.', '.'] then names ++ [name] else names.dropLast
  else names ++ [name]

/-- The fault found first when a path is followed name by name. `fault` is the one of the path as a
whole. -/
def firstFault (path : Path) (fault : PathFault) : PathFault :=
  go [] path.names
where
  /-- The fault found first behind the names that were passed. -/
  go (passed : List Text) : List Text → PathFault
    | [] => fault
    | name :: names =>
      let root := if path.root = .working then Root.working else .top
      let passed := follow path.root passed name
      match PathFault.of? (Path.text ⟨root, passed⟩) with
      | some fault => fault
      | none => go passed names

end Path

/-- A place on a disk: the bytes of the names from the top directory down. -/
abbrev Place := List Bytes

/-- The place with the given names. -/
def Place.ofNames (names : List Text) : Place := names.map Utf8.nameBytes

/-- What a place holds. -/
inductive Entry where
  /-- A directory. -/
  | directory
  /-- A file with its bytes. -/
  | file (content : Bytes)
  deriving DecidableEq, Repr

/-- Files and directories, and the directory from which relative paths start. -/
structure Disk where
  /-- The names of the working directory, from the top directory down. -/
  working : List Text
  /-- What stands where, with at most one entry for each place. -/
  entries : List (Place × Entry)
  deriving DecidableEq, Repr

namespace Disk

/-- What a place holds. The top directory needs no entry. -/
def entry? (disk : Disk) (place : Place) : Option Entry :=
  if place = [] then some .directory else disk.entries.lookup place

/-- The content of the file at a place, if there is one. -/
def file? (disk : Disk) (place : Place) : Option Bytes :=
  match disk.entry? place with
  | some (.file content) => some content
  | _ => none

/-- A list of entries with the entry of one place set. -/
def setEntry (place : Place) (entry : Entry) : List (Place × Entry) → List (Place × Entry)
  | [] => [(place, entry)]
  | (p, e) :: entries =>
    if p = place then (place, entry) :: entries else (p, e) :: setEntry place entry entries

/-- The disk with the entry of one place set. -/
def set (disk : Disk) (place : Place) (entry : Entry) : Disk :=
  { disk with entries := setEntry place entry disk.entries }

/-- The disk without what stands at one place and below it. -/
def remove (disk : Disk) (place : Place) : Disk :=
  { disk with entries := disk.entries.filter fun e => !place.isPrefixOf e.1 }

/-- The greatest number of bytes in a name. -/
def nameLimit : Nat := 255

/-- The least number of bytes that is too much for a path. -/
def pathLimit : Nat := 4096

/-- The place that a name leads to from a place. -/
def step (disk : Disk) (here : Place) (name : Text) : Except FileFault Place :=
  match disk.entry? here with
  | none => .error .notFound
  | some (.file _) => .error .notADirectory
  | some .directory =>
    if name = ['.', '.'] then .ok here.dropLast
    else if nameLimit < (Utf8.nameBytes name).length then .error .nameTooLong
    else .ok (here ++ [Utf8.nameBytes name])

/-- The place that names lead to one after the other. Nothing needs to stand there. -/
def walk (disk : Disk) : Place → List Text → Except FileFault Place
  | here, [] => .ok here
  | here, name :: names =>
    match disk.step here name with
    | .error fault => .error fault
    | .ok next => disk.walk next names

/-- The names of the directory where a path starts. -/
def start (disk : Disk) : Root → List Text
  | .working => disk.working
  | _ => []

/-- The place that a path leads to. -/
def locate (disk : Disk) (path : Path) : Except AccessFault Place :=
  match PathFault.of? path.text with
  | some fault => .error (.invalid fault)
  | none =>
    if pathLimit ≤ (Utf8.nameBytes path.text).length then .error (.refused .nameTooLong)
    else match disk.walk (.ofNames (disk.start path.root)) path.names with
      | .error fault => .error (.refused fault)
      | .ok place => .ok place

/-- The bytes of the file that a path leads to. -/
def read (disk : Disk) (path : Path) : Except AccessFault Bytes :=
  match disk.locate path with
  | .error fault => .error fault
  | .ok place =>
    match disk.entry? place with
    | none => .error (.refused .notFound)
    | some .directory => .error (.refused .isADirectory)
    | some (.file content) => .ok content

/-- The disk after the file that a path leads to was made or replaced. -/
def write (disk : Disk) (path : Path) (content : Bytes) : Except AccessFault Disk :=
  match disk.locate path with
  | .error fault => .error fault
  | .ok place =>
    match disk.entry? place with
    | some .directory => .error (.refused .isADirectory)
    | _ => .ok (disk.set place (.file content))

/-- Whether a path leads to a directory. -/
def isDirectory (disk : Disk) (path : Path) : Bool :=
  match disk.locate path with
  | .error _ => false
  | .ok place => disk.entry? place == some .directory

/-- The names left when each double dot takes the name before it away. -/
def collapse (names : List Text) : List Text :=
  names.foldl
    (fun place (name : Text) => if name = ['.', '.'] then place.dropLast else place ++ [name]) []

/-- The names from the top directory down that a path stands for, whether or not anything stands on
the way. -/
def resolve (disk : Disk) (path : Path) : List Text :=
  collapse (disk.start path.root ++ path.names)

/-- Names as a path from the top. -/
def pathOf (names : List Text) : Path := ⟨.top, names⟩

end Disk

end StyleTypings
