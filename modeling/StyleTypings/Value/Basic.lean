import StyleTypings.Calendar
import StyleTypings.Decimal.Binary64
import StyleTypings.Text.Utf8

/-!
# Values

The values that options, request bodies and configuration files are made of. A container that
holds itself cannot be written out as a tree; the place where it would start over is a value of
its own.
-/

namespace StyleTypings

/-- A value of a configuration or of a request. -/
inductive Value where
  /-- Nothing. -/
  | null
  /-- A truth value. -/
  | bool (value : Bool)
  /-- A whole number of any size. -/
  | int (value : Int)
  /-- A floating-point number. -/
  | float (value : Binary64)
  /-- A text. -/
  | text (value : Text)
  /-- Bytes. -/
  | bytes (value : Bytes)
  /-- A day. -/
  | date (value : Date)
  /-- A moment. -/
  | moment (value : Moment)
  /-- Values in order. -/
  | list (items : List Value)
  /-- A key with its value, as a member of an ordered mapping. -/
  | pair (first second : Value)
  /-- Keys with their values, in the order in which the keys came up first. -/
  | map (entries : List (Value × Value))
  /-- Keys alone. -/
  | set (items : List Value)
  /-- The list that this very place lies in. -/
  | enclosingList
  /-- The mapping that this very place lies in. -/
  | enclosingMap
  deriving Repr

namespace Value

/-- What a key is compared by: keys with equal images are the same key. Truth values and whole
floating-point numbers are the same keys as the integers they equal. -/
inductive KeyImage where
  /-- Nothing. -/
  | null
  /-- Everything that equals a whole number. -/
  | int (value : Int)
  /-- Any other number, by its bits. -/
  | bits (value : UInt64)
  /-- A text. -/
  | text (value : Text)
  /-- Bytes. -/
  | bytes (value : Bytes)
  /-- A day. -/
  | date (value : Date)
  /-- A moment, in universal time if its offset is known. -/
  | instant (known : Bool) (micros : Int)
  deriving DecidableEq

/-- The image of a value that may be a key; containers may not. -/
def keyImage? : Value → Option KeyImage
  | null => some .null
  | bool value => some (.int (if value then 1 else 0))
  | int value => some (.int value)
  | float value => some (match value.toInt? with
    | some n => .int n
    | none => .bits value.bits)
  | text value => some (.text value)
  | bytes value => some (.bytes value)
  | date value => some (.date value)
  | moment value => some (.instant value.offset.isSome value.instant)
  | _ => none

/-- Whether two values are the same key. -/
def sameKey (first second : Value) : Bool :=
  match first.keyImage?, second.keyImage? with
  | some a, some b => a == b
  | _, _ => false

end Value

/-- The value stored under a key in a list of entries. -/
def Value.lookup? {α : Type} (key : Value) : List (Value × α) → Option α
  | [] => none
  | (k, value) :: entries => if key.sameKey k then some value else lookup? key entries

/-- The entries with `value` stored under `key`: in the place of an entry with this key, which
keeps its own spelling of it, and else at the end. -/
def Value.store {α : Type} (key : Value) (value : α) : List (Value × α) → List (Value × α)
  | [] => [(key, value)]
  | (k, old) :: entries =>
    if key.sameKey k then (k, value) :: entries else (k, old) :: store key value entries

end StyleTypings
