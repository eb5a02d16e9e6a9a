import UiMarkup.Decimal.Natural

namespace UiMarkup.Decimal

/-- How many digits are looked at one by one. The middle between two neighbouring floats has fewer, so
of further digits it matters only whether all are zero. -/
def digitLimit : Nat := 800

/-- Digits, of which there are at most one more than the limit, and the number of digits left out: the
last one kept tells whether it or one of those counts. -/
def shortened (digits : List Char) : List Char × Nat :=
  match digits.drop digitLimit with
  | [] => (digits, 0)
  | further =>
    let last := if further.all (· == '0') then '0' else '1'
    (digits.take digitLimit ++ [last], further.length - 1)

/-- The float nearest to a number of the given digits times `10 ^ exponent`. Powers so large or small
that the result is infinite or zero are not computed. -/
def nearest (digits : List Char) (exponent : Int) : Float :=
  let significant := digits.dropWhile (· == '0')
  let size : Int := significant.length + exponent
  if significant.isEmpty ∨ size < -400 then 0.0
  else if size > 400 then 1.0 / 0.0
  else
    let (kept, left) := shortened significant
    let power := exponent + left
    Float.ofScientific ((digitsValue? 10 0 kept).getD 0) (decide (power < 0)) power.natAbs

/-- The value of the digits of a power of ten, after those of `start`. Digits count while the number
before them is below 65536. -/
def powerValue? (start : Nat) : List Char → Option Nat
  | [] => some start
  | c :: rest =>
    match digitValue? 10 c with
    | some digit => powerValue? (if start < 65536 then start * 10 + digit else start) rest
    | none => none

def power? (text : List Char) : Option Nat :=
  if text.isEmpty then none else powerValue? 0 text

def readExponent? : List Char → Option Int
  | [] => some 0
  | mark :: rest =>
    if mark = 'e' ∨ mark = 'E' then
      match rest with
      | '-' :: digits => (power? digits).map fun n => -(n : Int)
      | '+' :: digits => (power? digits).map Int.ofNat
      | digits => (power? digits).map Int.ofNat
    else none

def readMagnitude? (text : List Char) : Option Float :=
  let word := text.map Char.toLower
  if word = ['i', 'n', 'f'] ∨ word = ['i', 'n', 'f', 'i', 'n', 'i', 't', 'y'] then some (1.0 / 0.0)
  else if word = ['n', 'a', 'n'] then some (0.0 / 0.0)
  else
    let whole := text.takeWhile Char.isDigit
    let (fraction, tail) := match text.dropWhile Char.isDigit with
      | '.' :: rest => (rest.takeWhile Char.isDigit, rest.dropWhile Char.isDigit)
      | rest => ([], rest)
    let digits := whole ++ fraction
    if digits.isEmpty then none
    else (readExponent? tail).map fun exponent => nearest digits (exponent - fraction.length)

def readReal? : List Char → Option Float
  | '-' :: rest => (readMagnitude? rest).map fun x => -x
  | '+' :: rest => readMagnitude? rest
  | text => readMagnitude? text

def readFinite? (text : List Char) : Option Float :=
  match readReal? text with
  | some x => if x.isFinite then some x else none
  | none => none

theorem isFinite_of_readFinite? {text : List Char} {x : Float} (read : readFinite? text = some x) :
    x.isFinite = true := by
  grind [readFinite?]

end UiMarkup.Decimal
