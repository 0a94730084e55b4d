import StyleTypings.Failure
import StyleTypings.Value.Display

/-!
# Values as JSON

The text of an answer of the service. Whatever is printable or not stands in a string as it is,
without the two characters that have a meaning there and the control characters; so a text with a
surrogate in it keeps it, and what holds it cannot be put into bytes. A number without a value has
no JSON text at all.
-/

namespace StyleTypings.Json

/-- A code point between quotes. -/
def escape (c : CodePoint) : Text :=
  if c = '"' then ['\\', '"']
  else if c = '\\' then ['\\', '\\']
  else if c = '\n' then ['\\', 'n']
  else if c = '\r' then ['\\', 'r']
  else if c = '\t' then ['\\', 't']
  else if c = '\x08' then ['\\', 'b']
  else if c = '\x0c' then ['\\', 'f']
  else if c.toNat < 0x20 then '\\' :: 'u' :: Quoted.hex 4 c.toNat
  else [c]

/-- A text as a string. -/
def string (text : Text) : Text := .char '"' :: text.flatMap escape ++ ['"']

/-- Pieces in brackets with bare commas between them. -/
def bracketed (opening closing : CodePoint) (pieces : List Text) : Text :=
  opening :: Text.join [','] pieces ++ [closing]

mutual

/-- The text of a value. Answers are made of the first seven kinds; the others count as nothing. -/
def text : Value → Except ScalarFault Text
  | .null => .ok "null".toText
  | .bool true => .ok "true".toText
  | .bool false => .ok "false".toText
  | .int value => if (Value.int value).writable then .ok (Text.ofInt value) else .error .notWritable
  | .float value => if value.isFinite then .ok (Shortest.text value) else .error .notFinite
  | .text value => .ok (string value)
  | .list items => (texts items).map (bracketed '[' ']')
  | .map entries => (entryTexts entries).map (bracketed '\x7b' '\x7d')
  | _ => .ok "null".toText

/-- The texts of the values of a list. -/
def texts : List Value → Except ScalarFault (List Text)
  | [] => .ok []
  | item :: items =>
    match text item with
    | .error fault => .error fault
    | .ok first => (texts items).map (first :: ·)

/-- The texts of the entries of a mapping. -/
def entryTexts : List (Value × Value) → Except ScalarFault (List Text)
  | [] => .ok []
  | (key, value) :: entries =>
    match text key with
    | .error fault => .error fault
    | .ok name =>
      match text value with
      | .error fault => .error fault
      | .ok first => (entryTexts entries).map ((name ++ .char ':' :: first) :: ·)

end

/-- The bytes of a value. -/
def bytes (value : Value) : Except Failure Bytes :=
  match text value with
  | .error fault => .error (.scalar fault)
  | .ok text =>
    match Utf8.encode text with
    | .error run => .error (.unwritable run)
    | .ok bytes => .ok bytes

end StyleTypings.Json
