import StyleTypings.Text.Numeral
import StyleTypings.Value.Basic
import StyleTypings.Yaml.Tag
import StyleTypings.Yaml.Timestamp
import StyleTypings.Yaml.Token

/-!
# Values of scalars

The tag that bare text has by its form, and the value that a text has under a tag. A number may
be written in base sixty, with colons between its places. Bytes are written in base 64; other
characters between are passed over.
-/

namespace StyleTypings.Yaml

namespace Plain

/-- A text without the line feed at its end. -/
def withoutBreak (text : Text) : Text :=
  if text.getLast? = some (.char '\n') then text.dropLast else text

/-- The tag by the form of a text that is not empty, without the line feed at its end. -/
def formTag (text : Text) : Tag :=
  if text == ['~'] || isOneOfWords ["null"] text then .null
  else if isOneOfWords ["yes", "no", "true", "false", "on", "off"] text then .bool
  else if isInt text then .int
  else if isFloat text then .float
  else if Timestamp.isPlain text then .timestamp
  else if text == ['<', '<'] then .merge
  else if text == ['='] then .value
  else .str

/-- The tag that bare text has by its form. -/
def tag (text : Text) : Tag := if text.isEmpty then .null else formTag (withoutBreak text)

end Plain

namespace Scalar

/-- The truth value that a word stands for. -/
def truth (text : Text) : Except ScalarFault Bool :=
  if Numeral.isWord ["yes", "true", "on"] text then .ok true
  else if Numeral.isWord ["no", "false", "off"] text then .ok false
  else .error (.notTruth (Text.lowerLatin text))

/-- The sign of a number and the text behind it. -/
def signed (text : Text) : Except ScalarFault (Bool × Text) :=
  match text.filter fun c => c != .char '_' with
  | [] => .error .empty
  | '-' :: rest => .ok (true, rest)
  | '+' :: rest => .ok (false, rest)
  | rest => .ok (false, rest)

/-- The value of places in base sixty, the highest first. -/
def ofSixties (places : List Int) : Int := places.foldl (fun n place => n * 60 + place) 0

/-- A whole number without its sign. -/
def natural : Text → Except ScalarFault Int
  | [] => .error .empty
  | ['0'] => .ok 0
  | '0' :: 'b' :: rest => Numeral.toInt 2 rest
  | '0' :: 'x' :: rest => Numeral.toInt 16 rest
  | '0' :: rest => Numeral.toInt 8 ('0' :: rest)
  | text =>
    if text.contains ':' then
      ((Text.splitAtChar ':' text).mapM (Numeral.toInt 10)).map ofSixties
    else Numeral.toInt 10 text

/-- A whole number. -/
def integer (text : Text) : Except ScalarFault Int := do
  let (negative, rest) ← signed text
  let size ← natural rest
  return if negative then -size else size

/-- The sum of places in base sixty, the lowest first, each with the weight of its place. -/
def sumSixties : List Float → Float → Float → Float
  | [], _, sum => sum
  | place :: places, base, sum => sumSixties places (base * 60) (sum + place * base)

/-- The number with the opposite sign. -/
def negate (x : Binary64) : Binary64 := ⟨x.bits ^^^ 0x8000000000000000⟩

/-- A floating-point number. -/
def floating (text : Text) : Except ScalarFault Binary64 := do
  let (negative, rest) ← signed (Text.lowerLatin text)
  let sign := fun (x : Binary64) => if negative then negate x else x
  if rest = ".inf".toText then return sign (Binary64.infinity false)
  else if rest = ".nan".toText then return Binary64.nan
  else if rest.contains ':' then
    let places ← (Text.splitAtChar ':' rest).mapM Numeral.toBinary64
    return sign (Binary64.ofFloat (sumSixties (places.reverse.map Binary64.toFloat) 1 0))
  else return sign (← Numeral.toBinary64 rest)

/-- A date or a time. -/
def timestamp (text : Text) : Except ScalarFault Value :=
  match Timestamp.ofText? (Plain.withoutBreak text) with
  | none => .error .notDate
  | some stamp =>
    match stamp.resolve with
    | .error fault => .error (.calendar fault)
    | .ok (.inl date) => .ok (.date date)
    | .ok (.inr moment) => .ok (.moment moment)

/-- The value of a digit in base 64. -/
def sextet? (c : CodePoint) : Option Nat :=
  if c.isUpper then some (c.toNat - 65)
  else if c.isLower then some (c.toNat - 71)
  else if c.isDigit then some (c.toNat + 4)
  else if c = '+' then some 62
  else if c = '/' then some 63
  else none

/-- The bytes behind a place in base 64. `place` digits of the current group came before, of
which `left` holds the bits that no byte was made of, and `pads` counts the padding since the
last digit. Enough padding ends the text. -/
def base64 : Nat → Nat → Nat → Text → Option Bytes
  | place, _, _, [] => if place = 0 then some [] else none
  | place, left, pads, c :: text =>
    if c = '=' then
      if 2 ≤ place ∧ 4 ≤ place + pads + 1 then some []
      else base64 place left (if 2 ≤ place then pads + 1 else pads) text
    else match sextet? c with
      | none => base64 place left pads text
      | some n =>
        match place with
        | 0 => base64 1 n 0 text
        | 1 => (base64 2 (n % 16) 0 text).map (UInt8.ofNat (left * 4 + n / 16) :: ·)
        | 2 => (base64 3 (n % 4) 0 text).map (UInt8.ofNat (left * 16 + n / 4) :: ·)
        | _ => (base64 0 0 0 text).map (UInt8.ofNat (left * 64 + n) :: ·)

/-- Bytes written in base 64. -/
def binary (text : Text) : Except Fault Value :=
  if text.all fun c => c.toNat < 0x80 then
    match base64 0 0 0 text with
    | some bytes => .ok (.bytes bytes)
    | none => .error .malformed
  else .error .malformed

/-- A result with the fault of a plain value made one of the text. -/
def lift {α : Type} (make : α → Value) (result : Except ScalarFault α) : Except Fault Value :=
  match result with
  | .ok value => .ok (make value)
  | .error fault => .error (.scalar fault)

/-- The value of a text under a tag. Tags of collections do not fit a text. -/
def value (tag : Tag) (text : Text) : Except Fault Value :=
  match tag with
  | .null => .ok .null
  | .bool => lift .bool (truth text)
  | .int => lift .int (integer text)
  | .float => lift .float (floating text)
  | .timestamp => lift id (timestamp text)
  | .binary => binary text
  | .str => .ok (.text text)
  | _ => .error .malformed

end Scalar

end StyleTypings.Yaml
