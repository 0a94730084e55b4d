import StyleTypings.CommandLine.Grammar

/-!
# The commands and their descriptions

The grammar of the program and of its four commands, with the texts that describe them. Every
command has the flags for more and for fewer messages; they may be given before the command and
behind it.
-/

namespace StyleTypings.CommandLine

/-- The flags that every command has. -/
def commonOptions : List Spec :=
  [⟨.help, ["-h".toText, "--help".toText], false⟩,
   ⟨.verbose, ["-v".toText, "--verbose".toText], false⟩,
   ⟨.quiet, ["-q".toText, "--quiet".toText], false⟩]

/-- The commands that look after declarations. -/
inductive Job where
  /-- Writes declarations. -/
  | emit
  /-- Checks declarations. -/
  | verify
  /-- Does what the configuration says. -/
  | reconcile
  deriving DecidableEq, Repr

/-- The word for a job. -/
def Job.text : Job → Text
  | .emit => "emit".toText
  | .verify => "verify".toText
  | .reconcile => "reconcile".toText

/-- The words of all commands. -/
def commandNames : List Text :=
  [Job.emit.text, Job.verify.text, Job.reconcile.text, "serve".toText]

/-- The short description of the program. -/
def mainUsage : Text :=
  ("usage: cssdts [-h] [-v | -q] [--config CONFIG]\n" ++
   "              \x7bemit,verify,reconcile,serve\x7d ...\n").toText

/-- The grammar of the program. -/
def mainGrammar : Grammar where
  program := "cssdts".toText
  usage := mainUsage
  help := mainUsage ++
    ("\n" ++
     "Generate and verify TypeScript declarations for compiled CSS modules.\n" ++
     "\n" ++
     "positional arguments:\n" ++
     "  \x7bemit,verify,reconcile,serve\x7d\n" ++
     "    emit                Write declarations that are missing or out of date.\n" ++
     "    verify              Fail when a declaration is missing or out of date.\n" ++
     "    reconcile           Emit or verify using the mode from .cssdts.yml or\n" ++
     "                        CSSDTS_MODE.\n" ++
     "    serve               Run the reconciliation HTTP service.\n" ++
     "\n" ++
     "options:\n" ++
     "  -h, --help            show this help message and exit\n" ++
     "  -v, --verbose         Log extraction and comparison details.\n" ++
     "  -q, --quiet           Only log warnings and errors.\n" ++
     "  --config CONFIG       Path to .cssdts.yml or the directory containing it.\n").toText
  options := commonOptions ++ [⟨.config, ["--config".toText], true⟩]
  operands := .command "command".toText

/-- The short description of a job. The second line stands below the first option. -/
def jobUsage (job : Job) : Text :=
  "usage: cssdts ".toText ++ job.text ++
    " [-h] [-v | -q] [--compiled COMPILED] [--named-exports]\n".toText ++
    List.replicate (15 + job.text.length) (.char ' ') ++ "RESOURCE [RESOURCE ...]\n".toText

/-- The grammar of a job. -/
def jobGrammar (job : Job) : Grammar where
  program := "cssdts ".toText ++ job.text
  usage := jobUsage job
  help := jobUsage job ++
    ("\n" ++
     "positional arguments:\n" ++
     "  RESOURCE             Style source paths whose declarations should be\n" ++
     "                       reconciled.\n" ++
     "\n" ++
     "options:\n" ++
     "  -h, --help           show this help message and exit\n" ++
     "  -v, --verbose        Log extraction and comparison details.\n" ++
     "  -q, --quiet          Only log warnings and errors.\n" ++
     "  --compiled COMPILED  Compiled module text for a single RESOURCE (defaults to\n" ++
     "                       '<RESOURCE>.js').\n" ++
     "  --named-exports      Emit \x60export = cssExports\x60 instead of a default " ++
     "export.\n").toText
  options := commonOptions ++
    [⟨.compiled, ["--compiled".toText], true⟩,
     ⟨.namedExports, ["--named-exports".toText], false⟩]
  operands := .some "RESOURCE".toText

/-- The short description of the service's command. -/
def serveUsage : Text :=
  "usage: cssdts serve [-h] [-v | -q] [--host HOST] [--port PORT]\n".toText

/-- The grammar of the service's command. -/
def serveGrammar : Grammar where
  program := "cssdts serve".toText
  usage := serveUsage
  help := serveUsage ++
    ("\n" ++
     "options:\n" ++
     "  -h, --help     show this help message and exit\n" ++
     "  -v, --verbose  Log extraction and comparison details.\n" ++
     "  -q, --quiet    Only log warnings and errors.\n" ++
     "  --host HOST\n" ++
     "  --port PORT\n").toText
  options := commonOptions ++
    [⟨.host, ["--host".toText], true⟩, ⟨.socket, ["--port".toText], true⟩]
  operands := .none

end StyleTypings.CommandLine
