namespace UiMarkup.Decimal

def fractionCount : Nat := 4503599627370496

def signBit : Nat := 9223372036854775808

def infiniteBits : Nat := 2047 * fractionCount

/-- The interval of reals that round to one positive float, as whole numbers over one denominator. -/
structure Interval where
  low : Nat
  value : Nat
  high : Nat
  denominator : Nat
  closed : Bool

def Interval.ofBits (bits : Nat) : Interval :=
  let fraction := bits % fractionCount
  let exponent := bits / fractionCount
  let mantissa := if exponent = 0 then fraction else fractionCount + fraction
  let power := max exponent 1
  let below := if fraction = 0 ∧ 1 < exponent then 1 else 2
  -- the float is `mantissa * 2 ^ (power - 1075)`, counted here in quarters of its last place
  let scale := if 1077 ≤ power then Nat.pow 2 (power - 1077) else 1
  { low := (4 * mantissa - below) * scale
    value := 4 * mantissa * scale
    high := (4 * mantissa + 2) * scale
    denominator := if 1077 ≤ power then 1 else Nat.pow 2 (1077 - power)
    closed := mantissa % 2 == 0 }

/-- Whether `count` steps of `unit`, a fraction, lie in the interval. -/
def Interval.holds (interval : Interval) (count unitNum unitDen : Nat) : Bool :=
  let point := count * unitNum * interval.denominator
  let low := interval.low * unitDen
  let high := interval.high * unitDen
  if interval.closed then decide (low ≤ point ∧ point ≤ high) else decide (low < point ∧ point < high)

def digitCount (n : Nat) : Nat :=
  (Nat.toDigits 10 n).length

def leadingPower (num den : Nat) : Int :=
  if den ≤ num then digitCount (num / den) - 1
  else -(digitCount ((den + num - 1) / num - 1) : Int)

/-- The grid point of `10 ^ power` to be written for the interval, if one reads back. -/
def Interval.gridPoint? (interval : Interval) (power : Int) : Option Nat :=
  let unitNum := if 0 ≤ power then Nat.pow 10 power.toNat else 1
  let unitDen := if 0 ≤ power then 1 else Nat.pow 10 (-power).toNat
  let scaled := interval.value * unitDen
  let unit := unitNum * interval.denominator
  let below := scaled / unit
  let above := below + 1
  match interval.holds below unitNum unitDen, interval.holds above unitNum unitDen with
  | true, true =>
    if scaled - below * unit < above * unit - scaled then some below else some above
  | true, false => some below
  | false, true => some above
  | false, false => none

def Interval.search (interval : Interval) : (steps : Nat) → (power : Int) → Nat × Int
  | 0, power => ((interval.gridPoint? power).getD 0, power)
  | steps + 1, power =>
    match interval.gridPoint? power with
    | some point => (point, power)
    | none => interval.search steps (power - 1)

def positional (digits : Nat) (power : Int) : List Char :=
  let shown := Nat.toDigits 10 digits
  if 0 ≤ power then shown ++ List.replicate power.toNat '0'
  else
    let places := (-power).toNat
    if places < shown.length then
      shown.take (shown.length - places) ++ '.' :: shown.drop (shown.length - places)
    else
      '0' :: '.' :: List.replicate (places - shown.length) '0' ++ shown

def shortestPositive (bits : Nat) : List Char :=
  let interval := Interval.ofBits bits
  -- the digits of a float just below a power of ten may be those of the power itself
  let (digits, power) := interval.search 18 (leadingPower interval.value interval.denominator + 1)
  positional digits power

def shortest (x : Float) : String :=
  let bits := x.toBits.toNat
  let magnitude := bits % signBit
  let negative := bits ≥ signBit
  if magnitude > infiniteBits then "NaN"
  else if magnitude = 0 then "0"
  else
    let shown := if magnitude = infiniteBits then ['i', 'n', 'f'] else shortestPositive magnitude
    String.ofList (if negative then '-' :: shown else shown)

end UiMarkup.Decimal
