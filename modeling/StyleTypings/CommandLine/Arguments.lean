import StyleTypings.CommandLine.Help

/-!
# What a command line asks for

The arguments of the program, read as a command with its settings. The flags for messages count
wherever they stand; where one stands before the command and another one behind it, the wish
for more messages wins.
-/

namespace StyleTypings.CommandLine

/-- A command with its settings. -/
inductive Command where
  /-- Looks after the declarations of resources. -/
  | reconcile (job : Job) (resources : List Text) (compiled : Option Path) (namedExports : Bool)
  /-- Runs the service at a host and the socket of a number. -/
  | serve (host : Text) (socket : Int)
  deriving DecidableEq, Repr

/-- What a command line asks for. -/
structure Arguments where
  /-- Whether more messages are wished for. -/
  verbose : Bool
  /-- Whether fewer messages are wished for. -/
  quiet : Bool
  /-- The path of the configuration. -/
  config : Path
  /-- The command. -/
  command : Command
  deriving DecidableEq, Repr

/-- What is read behind the word of a command. -/
structure Subcommand where
  /-- Whether more messages are wished for. -/
  verbose : Bool
  /-- Whether fewer messages are wished for. -/
  quiet : Bool
  /-- The command. -/
  command : Command
  /-- Arguments that nothing was done with. -/
  unused : List Text
  deriving DecidableEq, Repr

namespace Subcommand

/-- Reads the arguments of a job. -/
def readJob (job : Job) (texts : List Text) : Except Stop Subcommand :=
  match (jobGrammar job).read .ok texts with
  | .error stop => .error stop
  | .ok reading =>
    .ok ⟨reading.has .verbose, reading.has .quiet,
      .reconcile job (reading.operands.getD []) ((reading.value? .compiled).map Path.ofText)
        (reading.has .namedExports),
      reading.unused⟩

/-- The host of the service unless another one is given. -/
def defaultHost : Text := "127.0.0.1".toText

/-- The socket of the service unless another one is given. -/
def defaultSocket : Int := 8000

/-- The number of the socket that a value gives. -/
def socketOf (value : Text) : Int := (Numeral.toInt 10 value).toOption.getD defaultSocket

/-- Reads the arguments of the service's command. -/
def readServe (texts : List Text) : Except Stop Subcommand :=
  match serveGrammar.read (fun _ => Except.ok ()) texts with
  | .error stop => .error stop
  | .ok reading =>
    .ok ⟨reading.has .verbose, reading.has .quiet,
      .serve ((reading.value? .host).getD defaultHost)
        ((reading.value? .socket).elim defaultSocket socketOf),
      reading.unused⟩

/-- Reads the word of a command and its arguments. -/
def read : List Text → Except Stop Subcommand
  | [] => .error (.misuse mainGrammar "a command is required".toText)
  | name :: texts =>
    if name = Job.emit.text then readJob .emit texts
    else if name = Job.verify.text then readJob .verify texts
    else if name = Job.reconcile.text then readJob .reconcile texts
    else if name = "serve".toText then readServe texts
    else
      .error (.misuse mainGrammar
        ("argument command: invalid choice: ".toText ++ Quoted.text name ++
          " (choose from ".toText ++ Text.join [',', ' '] (commandNames.map Quoted.text) ++
          [')']))

end Subcommand

/-- The path of the configuration unless another one is given. -/
def defaultConfig : Path := Path.ofText ['.']

/-- Reads the arguments of the program. Arguments that nothing was done with are refused. -/
def Arguments.read (texts : List Text) : Except Stop Arguments :=
  match mainGrammar.read Subcommand.read texts with
  | .error stop => .error stop
  | .ok reading =>
    match reading.operands with
    | none => .error (.misuse mainGrammar "a command is required".toText)
    | some sub =>
      match reading.unused ++ sub.unused with
      | [] =>
        .ok ⟨reading.has .verbose || sub.verbose, reading.has .quiet || sub.quiet,
          (reading.value? .config).elim defaultConfig Path.ofText, sub.command⟩
      | unused =>
        .error (.misuse mainGrammar
          ("unrecognized arguments: ".toText ++ Text.join [' '] unused))

end StyleTypings.CommandLine
