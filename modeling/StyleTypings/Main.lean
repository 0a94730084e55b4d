import StyleTypings.CommandLine.Surroundings

/-!
# The executable

Copies what a command line may touch from the machine into a disk value, runs the program on it,
and carries its effects out: the files that changed, the two outputs and the exit code. Nothing
is decided here.
-/

namespace StyleTypings.CommandLine

/-- The name of a place for the machine, which is asked for names that are text only. -/
def machinePath (place : Place) : String :=
  place.foldl
    (fun path name => path ++ "/" ++ (String.fromUTF8? (ByteArray.mk name.toArray)).getD "") ""

/-- A code point for the machine; a surrogate is written by its number. -/
def machineChars : CodePoint → List Char
  | .char c => [c]
  | .surrogate offset => '\\' :: 'u' :: Nat.toDigits 16 (0xD800 + offset.val)

/-- A text for the machine. -/
def machineText (text : Text) : String := String.ofList (text.flatMap machineChars)

/-- What stands at a place of the machine. -/
def entryAt (place : Place) : IO (Option Entry) := do
  try
    return some (.file (← IO.FS.readBinFile (machinePath place)).toList)
  catch
    | .inappropriateType _ 21 _ => return some .directory
    | _ => return none

/-- What stands at places of the machine, as a disk. -/
def copyDisk (working : List Text) (places : List Place) : IO Disk :=
  places.foldlM (fun disk place => do
    match ← entryAt place with
    | some entry => return disk.set place entry
    | none => return disk) ⟨working, []⟩

/-- The environment of the process. -/
def currentEnvironment : IO Environment := do
  let home ← IO.getEnv "HOME"
  let mode ← IO.getEnv "CSSDTS_MODE"
  let table ← try IO.FS.readFile "/etc/passwd" catch _ => pure ""
  return ⟨(home.getD "/").toText, homesIn table.toText, mode.map String.toText⟩

/-- Puts changed files onto the machine. -/
def putFiles (files : List (Place × Bytes)) : IO Unit :=
  files.forM fun (place, content) =>
    IO.FS.writeBinFile (machinePath place) (ByteArray.mk content.toArray)

/-- Carries out the effects of a run that began on the disk `before`. -/
def perform (before : Disk) (finish : Finish) : IO UInt32 := do
  putFiles (changedFiles before finish.disk)
  IO.print (machineText finish.stdout)
  IO.eprint (machineText finish.stderr)
  if finish.served.isSome then IO.eprintln "this executable does not listen on the network"
  match finish.exit with
  | .ok code => return UInt32.ofNat code
  | .error cause =>
    IO.eprintln (machineText cause.message)
    return 1

end StyleTypings.CommandLine

open StyleTypings StyleTypings.CommandLine in
/-- Runs the program on the arguments of the process. -/
def main (arguments : List String) : IO UInt32 := do
  let texts := arguments.map String.toText
  let environment ← currentEnvironment
  let working := (Path.ofText (toString (← IO.currentDir)).toText).names
  let before ← copyDisk working (places environment working texts)
  perform before (run environment before texts)
