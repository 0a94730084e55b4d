import StyleTypings.CommandLine.Program

/-!
# The surroundings of a run

The program works on a disk that is a value. This module says which places of a real disk have
to be copied into that value before a run: every place that is passed on the way to a file that
the run may open. It also reads the table of users, in which the home directories stand.
-/

namespace StyleTypings.CommandLine

/-- The names of the places passed on the way to a path, its own included. -/
def waypoints (working : List Text) (path : Path) : List (List Text) :=
  let disk : Disk := ⟨working, []⟩
  (List.range (path.names.length + 1)).map fun count =>
    disk.resolve { path with names := path.names.take count }

/-- The paths that looking for a configuration may follow. -/
def configPaths (environment : Environment) (working : List Text) (path : Path) : List Path :=
  match Config.expand environment path with
  | .error _ => []
  | .ok path =>
    let names := (⟨working, []⟩ : Disk).resolve path
    [path, Disk.pathOf (names ++ [Config.fileName])]

/-- The paths that looking after a resource may follow. -/
def resourcePaths (compiled : Option Path) (resource : Text) : List Path :=
  compiledPath compiled resource :: (Path.ofText resource).declaration?.toList

/-- The paths that a command line may follow. -/
def followedPaths (environment : Environment) (working : List Text) (texts : List Text) :
    List Path :=
  match Arguments.read texts with
  | .error _ => []
  | .ok arguments =>
    match arguments.command with
    | .serve _ _ => []
    | .reconcile _ resources compiled _ =>
      configPaths environment working arguments.config ++
        resources.flatMap (resourcePaths compiled)

/-- The places that a command line may come to, each once. -/
def places (environment : Environment) (working : List Text) (texts : List Text) : List Place :=
  ((followedPaths environment working texts).flatMap (waypoints working)).eraseDups.map .ofNames

/-- The user and the home directory in a line of the table of users, which has seven fields. -/
def homeIn? (line : Text) : Option (Text × Text) :=
  match Text.splitAtChar ':' line with
  | [user, _, _, _, _, home, _] => some (user, home)
  | _ => none

/-- The home directories in the table of users. -/
def homesIn (table : Text) : List (Text × Text) := (Text.splitAtChar '\n' table).filterMap homeIn?

/-- The files that differ between two disks, with their new content. -/
def changedFiles (before after : Disk) : List (Place × Bytes) :=
  after.entries.filterMap fun entry =>
    match entry.2 with
    | .file content => if before.file? entry.1 = some content then none else some (entry.1, content)
    | .directory => none

end StyleTypings.CommandLine
