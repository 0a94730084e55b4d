import StyleTypings.Calendar
import StyleTypings.Disk
import StyleTypings.Extraction
import StyleTypings.Text.Quoted

/-!
# Failures

Everything that can keep a declaration from being reconciled, as causes, and the one function
that words them. Four of the causes are the library's own reports to its user; the others come
from the disk, from bytes that are no text, or from arguments that name nothing.
-/

namespace StyleTypings

/-- Why a plain value cannot be made or written out. -/
inductive ScalarFault where
  /-- The fields of a date or time do not fit together. -/
  | calendar (fault : CalendarFault)
  /-- The text is no whole number in the base. -/
  | notInteger (base : Nat) (text : Text)
  /-- The number has more decimal digits than are read. -/
  | tooManyDigits (count : Nat)
  /-- A number has more decimal digits than are written out. -/
  | notWritable
  /-- A floating-point number is infinite or no number. -/
  | notFinite
  /-- The text is no floating-point number. -/
  | notFloat (text : Text)
  /-- The text is none of the words for a truth value. -/
  | notTruth (text : Text)
  /-- A number was expected, and there is no character. -/
  | empty
  /-- The text does not have the form of a date. -/
  | notDate
  /-- The code is larger than that of any character. -/
  | noSuchCharacter
  /-- The code does not fit into a machine word. -/
  | codeTooLarge
  deriving DecidableEq, Repr

/-- Why a reconciliation, or the reading of its configuration, fails. -/
inductive Failure where
  /-- The mode is not one of the two. -/
  | invalidMode (given : Text)
  /-- The configuration file of this name is not well-formed. The words with which a reader of such
  files describes where and why are not kept. -/
  | malformedConfig (file : Text)
  /-- The configuration file of this name holds something other than a mapping. -/
  | configNotMapping (file : Text)
  /-- There is no declaration at the path. -/
  | declarationMissing (path : Path)
  /-- The declaration at the path differs as the diff says. -/
  | declarationOutdated (path : Path) (diff : Text)
  /-- The system refuses to open the file of this name. -/
  | refused (fault : FileFault) (file : Text)
  /-- The bytes of a file are no text. -/
  | undecodable (fault : Utf8.Fault)
  /-- A text holds surrogates for which there are no bytes. -/
  | unwritable (run : Utf8.SurrogateRun)
  /-- A path is none for the system. -/
  | invalidPath (fault : PathFault)
  /-- The resource path has no name to which a suffix could be appended. -/
  | noName (path : Path)
  /-- A strategy fails. -/
  | strategy (fault : StrategyFault)
  /-- A home directory was asked for that is not known. -/
  | noHome
  /-- A plain value cannot be made or written out. -/
  | scalar (fault : ScalarFault)
  deriving DecidableEq, Repr

/-- The wording of a fault of a plain value. -/
def ScalarFault.message : ScalarFault → Text
  | .calendar fault => fault.message
  | .notInteger base text =>
    "invalid literal for int() with base ".toText ++ Text.ofNat base ++ ": ".toText ++
      Quoted.text text
  | .tooManyDigits count =>
    "Exceeds the limit (4300 digits) for integer string conversion: value has ".toText ++
      Text.ofNat count ++ " digits; use sys.set_int_max_str_digits() to increase the limit".toText
  | .notWritable =>
    ("Exceeds the limit (4300 digits) for integer string conversion; " ++
      "use sys.set_int_max_str_digits() to increase the limit").toText
  | .notFinite => "Out of range float values are not JSON compliant".toText
  | .notFloat text => "could not convert string to float: ".toText ++ Quoted.text text
  | .notTruth text => Quoted.text text
  | .empty => "string index out of range".toText
  | .notDate => "'NoneType' object has no attribute 'groupdict'".toText
  | .noSuchCharacter => "chr() arg not in range(0x110000)".toText
  | .codeTooLarge => "Python int too large to convert to C int".toText

namespace Failure

/-- The wording of a failure. For a configuration file that is not well-formed, what stands behind
the colon holds the place of the words of the reader of such files. -/
def message : Failure → Text
  | invalidMode given => "Invalid mode option: ".toText ++ given
  | malformedConfig file => "Failed to parse ".toText ++ file ++ ": not well-formed".toText
  | configNotMapping file => file ++ " must contain a mapping at the root".toText
  | declarationMissing path =>
    ("Generated type declaration does not exist. " ++
      "Run the build and commit the type declaration for '").toText ++ path.text ++ ['\x27']
  | declarationOutdated path diff =>
    ("Generated type declaration file is outdated. " ++
      "Run the build and commit the updated type declaration for '").toText ++ path.text ++
      "'\n\n".toText ++ diff
  | refused fault file =>
    "[Errno ".toText ++ Text.ofInt fault.code ++ "] ".toText ++ fault.reason ++ ": ".toText ++
      Quoted.text file
  | undecodable fault => fault.message
  | unwritable run => run.message
  | invalidPath (.unwritable run) => run.message
  | invalidPath .null => "embedded null byte".toText
  | noName path => "PosixPath(".toText ++ Quoted.text path.text ++ ") has an empty name".toText
  | strategy .emptyMarker => "empty separator".toText
  | noHome => "Could not determine home directory.".toText
  | scalar fault => fault.message

/-- Whether the failure is a report of the library itself to its user. -/
def isReport : Failure → Bool
  | invalidMode _ | malformedConfig _ | configNotMapping _ | declarationMissing _
  | declarationOutdated _ _ => true
  | _ => false

/-- Whether the failure is a refusal of the system that holds the files. -/
def isRefusal : Failure → Bool
  | refused _ _ => true
  | _ => false

/-- The failure to open the file of a path. -/
def ofAccess (path : Path) : AccessFault → Failure
  | .refused fault => refused fault path.text
  | .invalid fault => invalidPath fault

end Failure

end StyleTypings
