import StyleTypings.Proofs.CommandLine.Escapes

/-!
# Loading the configuration

A configuration cannot be loaded because its file is malformed or holds no mapping, which the
program reports, or for a reason that it does not expect. One such reason is a file that is no text.
-/

namespace StyleTypings

variable {environment : Environment} {disk : Disk} {path : Path} {name text : Text}
  {names : List Text} {cause : Failure}

namespace Config

end Config

/-! ## What a loading can fail over -/

namespace Config

end Config

end StyleTypings
