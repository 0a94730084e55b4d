import StyleTypings.Decimal.Binary64
import StyleTypings.Text.Basic

/-!
# Shortest decimal text

The text of a floating-point number has the fewest digits that read back as the same number,
and among those the digits nearest to it. It is found by trying one digit, two digits and so
on: on each decimal grid the two neighbours of the value are tested against the interval of
reals that round to it. Numbers from 10⁻⁴ up to 10¹⁶ are written with a decimal point, all
others with an exponent of at least two digits.
-/

namespace StyleTypings.Shortest

/-- A size `mantissa * 2 ^ exponent` and the points half way to its neighbours, as numerators
over one common denominator. -/
structure Interval where
  /-- The lower end. -/
  low : Nat
  /-- The value itself. -/
  value : Nat
  /-- The upper end. -/
  high : Nat
  /-- The common denominator. -/
  unit : Nat
  /-- Whether the ends round to the value too. -/
  closed : Bool
  deriving Repr

/-- The reals that round to a finite positive size. The lower neighbour of a power of two is
only half as far away as the upper one. -/
def interval (mantissa : Nat) (exponent : Int) : Interval :=
  let scale := twoTo (exponent - 2).toNat
  let unit := twoTo (2 - exponent).toNat
  let below := if mantissa = twoTo 52 ∧ exponent ≠ -1074 then 1 else 2
  ⟨(4 * mantissa - below) * scale, 4 * mantissa * scale, (4 * mantissa + 2) * scale, unit,
    mantissa % 2 = 0⟩

/-- Whether `digits * 10 ^ power` rounds to the value. -/
def Interval.holds (i : Interval) (digits : Nat) (power : Int) : Bool :=
  let point := digits * tenTo power.toNat * i.unit
  let scale := tenTo (-power).toNat
  let low := i.low * scale
  let high := i.high * scale
  if i.closed then low ≤ point && point ≤ high else low < point && point < high

/-- The digits of the value cut off at the grid `10 ^ power`. -/
def Interval.floor (i : Interval) (power : Int) : Nat :=
  i.value * tenTo (-power).toNat / (i.unit * tenTo power.toNat)

/-- Whether the value is nearer to `digits + 1` than to `digits` on the grid `10 ^ power`; of
two equally near points the even one counts as nearer. -/
def Interval.nearerAbove (i : Interval) (digits : Nat) (power : Int) : Bool :=
  let twice := 2 * i.value * tenTo (-power).toNat
  let middle := (2 * digits + 1) * tenTo power.toNat * i.unit
  middle < twice || (middle == twice && digits % 2 == 1)

/-- The digits on one grid that read back as the value, if there are any. -/
def Interval.onGrid (i : Interval) (power : Int) : Option Nat :=
  let digits := i.floor power
  match i.holds digits power, i.holds (digits + 1) power with
  | true, true => some (if i.nearerAbove digits power then digits + 1 else digits)
  | true, false => some digits
  | false, true => some (digits + 1)
  | false, false => none

/-- The greatest power of ten that is not above the value, searched upward from `power`. -/
def Interval.magnitude (i : Interval) : Nat → Int → Int
  | 0, power => power
  | fuel + 1, power => if i.floor (power + 1) = 0 then power else i.magnitude fuel (power + 1)

/-- The first grid from `power` downward that has digits for the value. -/
def Interval.search (i : Interval) : Nat → Int → Nat × Int
  | 0, power => (i.floor power, power)
  | fuel + 1, power =>
    match i.onGrid power with
    | some digits => (digits, power)
    | none => i.search fuel (power - 1)

/-- The shortest digits of a finite positive size and the power of ten they are to be
multiplied by. -/
def digits (mantissa : Nat) (exponent : Int) : Nat × Int :=
  let i := interval mantissa exponent
  i.search 17 (i.magnitude 700 (-330))

/-- Zeros taken off the end of a digit list. -/
def trimZeros (ds : Text) : Text := (ds.reverse.dropWhile fun c => c == .char '0').reverse

/-- The text of digits `ds`, of which the first stands at `10 ^ power`. -/
def layout (ds : Text) (power : Int) : Text :=
  if -4 ≤ power ∧ power < 16 then
    if power < 0 then
      "0.".toText ++ List.replicate (-power - 1).toNat (.char '0') ++ ds
    else
      let whole := power.toNat + 1
      let front := ds.take whole
      let back := ds.drop whole
      front ++ List.replicate (whole - front.length) (.char '0') ++ .char '.' ::
        (if back.isEmpty then "0".toText else back)
  else
    let lead := ds.take 1
    let rest := ds.drop 1
    lead ++ (if rest.isEmpty then [] else .char '.' :: rest) ++ .char 'e' ::
      (if power < 0 then .char '-' else .char '+') :: Text.zeroPadded 2 (Text.ofNat power.natAbs)

/-- The text of a number. -/
def text (x : Binary64) : Text :=
  if x.isNaN then "nan".toText
  else
    let size :=
      if !x.isFinite then "inf".toText
      else if x.mantissa = 0 then "0.0".toText
      else
        let (n, power) := digits x.mantissa x.exponent
        let ds := Text.ofNat n
        layout (trimZeros ds) (power + ds.length - 1)
    if x.negative then '-' :: size else size

end StyleTypings.Shortest
