import StyleTypings.Text.Printable
import StyleTypings.Text.Utf8

/-!
# Quoted text

Text and bytes in quotes, as they appear inside messages and inside the text of a list. Single
quotes are used unless the text has a single quote and no double one. Characters that are not
printable are written by their code, in the shortest of three widths.
-/

namespace StyleTypings.Quoted

/-- The quote put around a text: the one that needs no escape, if there is one. -/
def quoteFor (hasSingle hasDouble : Bool) : CodePoint :=
  if hasSingle && !hasDouble then '"' else '\x27'

/-- The lowest `width` hexadecimal digits of a number. -/
def hex : Nat → Nat → Text
  | 0, _ => []
  | width + 1, n => hex width (n / 16) ++ [Utf8.hexDigit (n % 16)]

/-- A character between quotes of the given kind. -/
def escape (quote c : CodePoint) : Text :=
  if c == quote || c == '\\' then ['\\', c]
  else if c == '\n' then ['\\', 'n']
  else if c == '\r' then ['\\', 'r']
  else if c == '\t' then ['\\', 't']
  else if isPrintable c then [c]
  else if c.toNat < 0x100 then '\\' :: 'x' :: hex 2 c.toNat
  else if c.toNat < 0x10000 then '\\' :: 'u' :: hex 4 c.toNat
  else '\\' :: 'U' :: hex 8 c.toNat

/-- A text in quotes. -/
def text (content : Text) : Text :=
  let quote := quoteFor (content.contains '\x27') (content.contains '"')
  quote :: content.flatMap (escape quote) ++ [quote]

/-- A byte between quotes of the given kind. -/
def escapeByte (quote : CodePoint) (b : UInt8) : Text :=
  let c := CodePoint.ofNat b.toNat
  if b.toNat < 0x80 then escape quote c else '\\' :: 'x' :: hex 2 b.toNat

/-- Bytes in quotes behind a letter `b`. -/
def bytes (content : Bytes) : Text :=
  let quote := quoteFor (content.contains 0x27) (content.contains 0x22)
  .char 'b' :: quote :: content.flatMap (escapeByte quote) ++ [quote]

end StyleTypings.Quoted
