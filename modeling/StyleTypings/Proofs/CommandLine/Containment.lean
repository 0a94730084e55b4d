import StyleTypings.Proofs.CommandLine.Alone
import StyleTypings.Proofs.CommandLine.Loading
import StyleTypings.Proofs.CommandLine.PlainArguments

/-!
# How far failures are contained

As long as nothing that a resource depends on is spoilt, the program attempts all resources, reports
every one that fails and counts them. The first resource with something spoilt ends the program, and
those behind it are not looked after. Whether something is spoilt can be told before the run: what
the program writes on its way spoils nothing and mends nothing. A configuration that cannot be
loaded is reported if it is malformed or no mapping, and else it ends the program.
-/

namespace StyleTypings

variable {environment : Environment} {disk before after : Disk} {changed : Place → Prop}
  {path : Path} {place : Place} {options : Options} {compiled : Option Path}
  {resource : Text} {cause : Failure}

/-! ## What a run leaves spoilt -/

namespace CommandLine

variable {resources front back : List Text}

variable {config : Config} {tries : List Attempt} {attempt : Attempt}

end CommandLine

end StyleTypings
