import StyleTypings.Decimal.Shortest
import StyleTypings.Text.Numeral
import StyleTypings.Text.Quoted
import StyleTypings.Value.Basic

/-!
# Values written out

A value has two written forms. `literal` is the form inside a list: text stands in quotes. It
differs from `display`, the form on its own, for texts and calendar values only. A value with a
whole number of too many digits is not written out at all, which is what `writable` tells.
-/

namespace StyleTypings.Value

/-- Pieces in brackets with commas between them. -/
def bracketed (opening closing : CodePoint) (pieces : List Text) : Text :=
  opening :: Text.join [',', ' '] pieces ++ [closing]

mutual

/-- The written form of a value inside a container. -/
def literal : Value → Text
  | null => "None".toText
  | bool true => "True".toText
  | bool false => "False".toText
  | int value => Text.ofInt value
  | float value => Shortest.text value
  | text value => Quoted.text value
  | bytes value => Quoted.bytes value
  | date value => value.literal
  | moment value => value.literal
  | list items => bracketed '[' ']' (literals items)
  | pair first second => bracketed '(' ')' [literal first, literal second]
  | map entries => bracketed '\x7b' '\x7d' (entryLiterals entries)
  | set [] => "set()".toText
  | set (item :: items) => bracketed '\x7b' '\x7d' (literal item :: literals items)
  | enclosingList => "[...]".toText
  | enclosingMap => "\x7b...\x7d".toText

/-- The written forms of the values of a list. -/
def literals : List Value → List Text
  | [] => []
  | item :: items => literal item :: literals items

/-- The written forms of the entries of a mapping. -/
def entryLiterals : List (Value × Value) → List Text
  | [] => []
  | (key, value) :: entries =>
    (literal key ++ .char ':' :: .char ' ' :: literal value) :: entryLiterals entries

end

mutual

/-- Whether no whole number in a value has more decimal digits than are written out. -/
def writable : Value → Bool
  | int value => value.natAbs < tenTo Numeral.digitLimit
  | list items => allWritable items
  | pair first second => writable first && writable second
  | map entries => entriesWritable entries
  | set items => allWritable items
  | _ => true

/-- Whether all values of a list can be written out. -/
def allWritable : List Value → Bool
  | [] => true
  | item :: items => writable item && allWritable items

/-- Whether all entries of a mapping can be written out. -/
def entriesWritable : List (Value × Value) → Bool
  | [] => true
  | (key, value) :: entries => writable key && writable value && entriesWritable entries

end

/-- The written form of a value on its own. -/
def display : Value → Text
  | text value => value
  | date value => value.text
  | moment value => value.text
  | value => value.literal

end StyleTypings.Value
