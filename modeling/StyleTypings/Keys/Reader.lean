import StyleTypings.Text.Literal

/-!
# Reading export keys

Two places in compiled module text name export keys. In a locals object a key is a quoted word
followed by a colon. In an export statement it is the quoted word behind `as`. In both, a key
is not empty and holds neither a quote nor a backslash. A reader hands the keys out one at a
time, in the order of the text and with repetitions; what is left of it is again a reader, so
it can be drained in any number of portions.
-/

namespace StyleTypings

/-- Whether a character may stand in a key. -/
def isKeyChar (c : CodePoint) : Bool := c != '"' && c != '\\'

/-- Whether a character may stand in the local name of an export statement. -/
def isLocalChar (c : CodePoint) : Bool :=
  c == '_' || (.char 'a' ≤ c && c ≤ 'z') || (.char '0' ≤ c && c ≤ '9')

namespace QuotedKey

/-- The key of an entry `"key":` that stands at the beginning, and what follows the colon. -/
def at? : Text → Option (Text × Text)
  | '"' :: text =>
    match text.takeWhile isKeyChar, text.dropWhile isKeyChar with
    | k :: key, '"' :: ':' :: rest => some (k :: key, rest)
    | _, _ => none
  | _ => none

/-- The first entry of the text: its key, and what follows it. -/
def next? : Text → Option (Text × Text)
  | [] => none
  | c :: text =>
    match at? (c :: text) with
    | some found => some found
    | none => next? text

end QuotedKey

namespace ExportStatement

/-- The key of a statement `export { name as "key" }` that stands at the beginning, and what
follows the statement. The quoted key is read as a literal. -/
def at? (text : Text) : Option (Text × Text) := do
  let text ← Text.after? ['e', 'x', 'p', 'o', 'r', 't', ' ', '{', ' '] text
  let name := text.takeWhile isLocalChar
  if name.isEmpty then none
  let text ← Text.after? [' ', 'a', 's', ' ', '"'] (text.dropWhile isLocalChar)
  let word := text.takeWhile isKeyChar
  if word.isEmpty then none
  let rest ← Text.after? ['"', ' ', '}'] (text.dropWhile isKeyChar)
  let key ← Literal.decode (Literal.quote word)
  return (key, rest)

/-- The first statement of the text: its key, and what follows it. -/
def next? : Text → Option (Text × Text)
  | [] => none
  | c :: text =>
    match at? (c :: text) with
    | some found => some found
    | none => next? text

end ExportStatement

/-- Keys that are still to be read. -/
inductive KeyReader where
  /-- The keys of a locals object whose entries are in the text. -/
  | entries (text : Text)
  /-- The keys of the export statements in the text. -/
  | statements (text : Text)
  /-- Keys that are known beforehand. -/
  | listed (keys : List Text)
  deriving DecidableEq, Repr

namespace KeyReader

/-- The next key and the reader behind it. -/
def next? : KeyReader → Option (Text × KeyReader)
  | .entries text => (QuotedKey.next? text).map fun found => (found.1, .entries found.2)
  | .statements text => (ExportStatement.next? text).map fun found => (found.1, .statements found.2)
  | .listed [] => none
  | .listed (key :: keys) => some (key, .listed keys)

/-- At most how many keys are left. -/
def bound : KeyReader → Nat
  | .entries text => text.length
  | .statements text => text.length
  | .listed keys => keys.length

/-- The next `count` keys, or all that are left when there are fewer, and the reader behind
them. -/
def take : Nat → KeyReader → List Text × KeyReader
  | 0, reader => ([], reader)
  | count + 1, reader =>
    match reader.next? with
    | none => ([], reader)
    | some (key, reader) =>
      let rest := take count reader
      (key :: rest.1, rest.2)

/-- All keys that are left. -/
def toList (reader : KeyReader) : List Text := (reader.take reader.bound).1

end KeyReader

end StyleTypings
