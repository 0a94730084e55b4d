import StyleTypings.Keys.Reader

/-!
# Extraction

A strategy recognises one convention for writing export keys. The strategies are asked in
order, and the first that recognises the text decides; a text that none recognises has no
keys. The convention of a locals object is recognised by a marker, and its keys are read from
behind the marker's leftmost occurrence. The convention of export statements is the last
resort, so it accepts every text.
-/

namespace StyleTypings

/-- What one strategy reports about a text. -/
structure Extraction where
  /-- Name of the strategy. -/
  strategy : Text
  /-- Whether the text follows the convention, even if it declares no key. -/
  recognised : Bool
  /-- The declared keys in source order, repetitions included. -/
  keys : KeyReader
  deriving DecidableEq, Repr

/-- The one way in which a strategy can fail. -/
inductive StrategyFault where
  /-- A marker without characters was to be looked for. -/
  | emptyMarker
  deriving DecidableEq, Repr

/-- A way of finding keys in compiled module text. -/
structure Strategy where
  /-- The report on a text. -/
  extract : Text → Except StrategyFault Extraction

namespace Strategy

/-- The report of the locals convention under the given name: the first marker in list order
that occurs decides. -/
def extractLocals : List Text → Text → Except StrategyFault Extraction
  | [], _ => .ok ⟨"locals".toText, false, .listed []⟩
  | marker :: markers, text =>
    if marker.isEmpty then .error .emptyMarker
    else match Text.cutAt? marker text with
      | some (_, tail) => .ok ⟨"locals".toText, true, .entries tail⟩
      | none => extractLocals markers text

/-- The convention of an object literal behind one of the markers. -/
def locals (markers : List Text) : Strategy := ⟨extractLocals markers⟩

/-- The convention of export statements anywhere in the text. -/
def namedExports : Strategy := ⟨fun text => .ok ⟨"named-exports".toText, true, .statements text⟩⟩

/-- A strategy that reports the same for every text. -/
def fixed (name : Text) (recognised : Bool) (keys : List Text) : Strategy :=
  ⟨fun _ => .ok ⟨name, recognised, .listed keys⟩⟩

/-- The markers looked for unless others are given. -/
def defaultMarkers : List Text :=
  ["exports.locals = \x7b".toText, "___CSS_LOADER_EXPORT___.locals = \x7b".toText]

/-- The strategies used unless others are given. -/
def defaults : List Strategy := [locals defaultMarkers, namedExports]

end Strategy

namespace Extraction

/-- The report on a text that no strategy recognises. -/
def unrecognised : Extraction := ⟨"none".toText, false, .listed []⟩

/-- The report of the first strategy that recognises the text. -/
def select : List Strategy → Text → Except StrategyFault Extraction
  | [], _ => .ok unrecognised
  | strategy :: strategies, text =>
    match strategy.extract text with
    | .error fault => .error fault
    | .ok report => if report.recognised then .ok report else select strategies text

end Extraction

/-- Puts a key into an ascending list of keys, unless it is there already. -/
def insertKey (key : Text) : List Text → List Text
  | [] => [key]
  | head :: tail =>
    if key < head then key :: head :: tail
    else if head < key then head :: insertKey key tail
    else head :: tail

/-- The keys without repetitions, in ascending order of their code points. -/
def collectKeys (keys : List Text) : List Text := keys.foldr insertKey []

end StyleTypings
