import StyleTypings.Decimal.Binary64
import StyleTypings.Failure
import StyleTypings.Text.Blank
import StyleTypings.Text.Literal

/-!
# Numerals

Numbers read from text that a person wrote: blanks around the number, a sign, digits of any
script, and single underscores between digits. A whole number may carry the mark of its base in
front, and one in base ten is read up to a limit of digits. Anything else is refused as a whole.
-/

namespace StyleTypings.Numeral

/-- The digits zero above ASCII. Each is followed by the digits one to nine of its script. -/
def zeros : List Nat :=
  [0x660, 0x6F0, 0x7C0, 0x966, 0x9E6, 0xA66, 0xAE6, 0xB66, 0xBE6, 0xC66, 0xCE6, 0xD66, 0xDE6,
   0xE50, 0xED0, 0xF20, 0x1040, 0x1090, 0x17E0, 0x1810, 0x1946, 0x19D0, 0x1A80, 0x1A90, 0x1B50,
   0x1BB0, 0x1C40, 0x1C50, 0xA620, 0xA8D0, 0xA900, 0xA9D0, 0xA9F0, 0xAA50, 0xABF0, 0xFF10,
   0x104A0, 0x10D30, 0x11066, 0x110F0, 0x11136, 0x111D0, 0x112F0, 0x11450, 0x114D0, 0x11650,
   0x116C0, 0x11730, 0x118E0, 0x11950, 0x11C50, 0x11D50, 0x11DA0, 0x16A60, 0x16AC0, 0x16B50,
   0x1D7CE, 0x1D7D8, 0x1D7E2, 0x1D7EC, 0x1D7F6, 0x1E140, 0x1E2F0, 0x1E950, 0x1FBF0]

/-- The value of a decimal digit of any script. -/
def decimalDigit? (c : CodePoint) : Option Nat :=
  if c.isDigit then some (c.toNat - 48)
  else (zeros.find? fun first => first ≤ c.toNat && c.toNat < first + 10).map (c.toNat - ·)

/-- Digits of other scripts and blanks above ASCII, replaced by their ASCII fellows. -/
def toAscii (text : Text) : Text :=
  text.map fun c =>
    if c.toNat < 0x80 then c
    else if isBlank c then ' '
    else match decimalDigit? c with
      | some n => CodePoint.ofNat (48 + n)
      | none => c

/-- Whether a character may surround a number. -/
def isPadding (c : CodePoint) : Bool := c == ' ' || (0x09 ≤ c.toNat && c.toNat ≤ 0x0D)

/-- The text without the padding around it. -/
def unpad (text : Text) : Text :=
  ((text.dropWhile isPadding).reverse.dropWhile isPadding).reverse

/-- The sign in front of a text, and the rest. -/
def splitSign : Text → Bool × Text
  | '-' :: text => (true, text)
  | '+' :: text => (false, text)
  | text => (false, text)

/-- The value of a digit of a base up to sixteen. -/
def digitIn? (base : Nat) (c : CodePoint) : Option Nat :=
  (Literal.hexValue? c).filter (· < base)

/-- The digits of a numeral with single underscores between them; the flag tells whether a digit
must come next. -/
def digits? (base : Nat) : Bool → Text → Option (List Nat)
  | true, [] => none
  | false, [] => some []
  | expected, c :: text =>
    if c = '_' then if expected then none else digits? base true text
    else do return (← digitIn? base c) :: (← digits? base false text)

/-- The text behind the mark of the base, if it has one. One underscore may follow the mark. -/
def withoutMark (base : Nat) (text : Text) : Text :=
  match text with
  | '0' :: m :: rest =>
    let marked := (base = 16 && (m == 'x' || m == 'X')) || (base = 8 && (m == 'o' || m == 'O')) ||
      (base = 2 && (m == 'b' || m == 'B'))
    if marked then
      match rest with
      | '_' :: rest => rest
      | rest => rest
    else text
  | _ => text

/-- The number that digits of a base stand for. -/
def ofDigits (base : Nat) (digits : List Nat) : Nat := digits.foldl (fun n d => n * base + d) 0

/-- The greatest number of decimal digits of a number that is read or written out. -/
def digitLimit : Nat := 4300

/-- The whole number that a text stands for. -/
def toInt (base : Nat) (text : Text) : Except ScalarFault Int :=
  let (negative, rest) := splitSign (unpad (toAscii text))
  match digits? base true (withoutMark base rest) with
  | none => .error (.notInteger base text)
  | some digits =>
    if base = 10 ∧ digitLimit < digits.length then .error (.tooManyDigits digits.length)
    else
      let size : Int := ofDigits base digits
      .ok (if negative then -size else size)

/-- Whether the text is one of the words, in capital or small letters. -/
def isWord (words : List String) (text : Text) : Bool :=
  words.any fun word => word.toText == Text.lowerLatin text

/-- The exponent at the end of a floating-point numeral. -/
def exponent? : Text → Option Int
  | [] => some 0
  | c :: text =>
    if c = 'e' ∨ c = 'E' then
      let (negative, digits) := splitSign text
      if digits.isEmpty || !digits.all CodePoint.isDigit then none
      else
        let size : Int := ofDigits 10 (digits.map fun d => d.toNat - 48)
        some (if negative then -size else size)
    else none

/-- The floating-point number that a text stands for. -/
def toBinary64 (text : Text) : Except ScalarFault Binary64 :=
  let (negative, rest) := splitSign (unpad (toAscii text))
  if isWord ["inf", "infinity"] rest then .ok (Binary64.infinity negative)
  else if isWord ["nan"] rest then .ok Binary64.nan
  else
    let whole := rest.takeWhile CodePoint.isDigit
    let (places, rest) := match rest.dropWhile CodePoint.isDigit with
      | '.' :: rest => (rest.takeWhile CodePoint.isDigit, rest.dropWhile CodePoint.isDigit)
      | rest => ([], rest)
    let digits := (whole ++ places).map fun d => d.toNat - 48
    match exponent? rest with
    | none => .error (.notFloat text)
    | some power =>
      if digits.isEmpty then .error (.notFloat text)
      else .ok (Binary64.ofDecimal negative (ofDigits 10 digits) (power - places.length))

end StyleTypings.Numeral
