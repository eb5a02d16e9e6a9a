import UiMarkup.Decimal.Natural
import UiMarkup.Decimal.Real
import UiMarkup.Decimal.Shortest
import UiMarkup.Fault
import UiMarkup.Text.Ascii
import UiMarkup.Text.Blank
import UiMarkup.Text.Cut

namespace UiMarkup.Color

def hundredths (x : Float) : Float :=
  let scaled := x * 100.0
  let whole := scaled.toUInt64
  let rounded := if scaled - whole.toFloat ≥ 0.5 then whole + 1 else whole
  rounded.toFloat / 100.0

def withAlpha (digits : List Char) (alpha : Float) : String :=
  "#" ++ String.ofList digits ++ "(" ++ Decimal.shortest (hundredths alpha) ++ ")"

def opaqueColor (digits : List Char) : String :=
  "#" ++ String.ofList digits

def channelDigits (channel : Nat) : List Char :=
  [Nat.digitChar (channel / 16), Nat.digitChar (channel % 16)]

def named : List (String × String) := [
  ("black", "#000000"), ("white", "#ffffff"), ("red", "#ff0000"), ("green", "#008000"),
  ("lime", "#00ff00"), ("blue", "#0000ff"), ("yellow", "#ffff00"), ("orange", "#ffa500"),
  ("purple", "#800080"), ("gray", "#808080"), ("grey", "#808080"), ("transparent", "#000000(0)")]

def isHexDigit (c : Char) : Bool :=
  (Decimal.digitValue? 16 c).isSome

def readHex? (digits : List Char) : Option String :=
  if digits.all isHexDigit then
    match digits with
    | [r, g, b] => some (opaqueColor [r, r, g, g, b, b])
    | [_, _, _, _, _, _] => some (opaqueColor digits)
    | [r₁, r₂, g₁, g₂, b₁, b₂, a₁, a₂] =>
      (Decimal.digitsValue? 16 0 [a₁, a₂]).map fun alpha =>
        withAlpha [r₁, r₂, g₁, g₂, b₁, b₂] (alpha.toFloat / 255.0)
    | _ => none
  else none

def readChannel (text : List Char) : Except StyleFault (List Char) :=
  match Decimal.readNat? 10 Decimal.byteLimit text with
  | some channel => .ok (channelDigits channel)
  | none => .error (.invalidChannel (String.ofList text))

def readAlpha (text : List Char) : Except StyleFault Float :=
  match Decimal.readReal? text with
  | some alpha =>
    if 0.0 ≤ alpha && alpha ≤ 1.0 then .ok alpha else .error (.invalidAlpha (String.ofList text))
  | none => .error (.invalidAlpha (String.ofList text))

def readComponents (value : String) : List (List Char) → Except StyleFault String
  | [r, g, b] => do
    return opaqueColor ((← readChannel r) ++ (← readChannel g) ++ (← readChannel b))
  | [r, g, b, alpha] => do
    let digits := (← readChannel r) ++ (← readChannel g) ++ (← readChannel b)
    return withAlpha digits (← readAlpha alpha)
  | _ => .error (.componentCount value)

def components? (text : List Char) : Option (List Char) := do
  let rest ← Text.afterStart? "rgba(".toList text <|> Text.afterStart? "rgb(".toList text
  Text.beforeEnd? [')'] rest

def read (value : String) : Except StyleFault String :=
  let given := Text.trim value.toList
  let text := Text.lowered given
  match named.lookup (String.ofList text), text with
  | some color, _ => .ok color
  | none, '#' :: digits =>
    match readHex? digits with
    | some color => .ok color
    | none => .error (.invalidHex (String.ofList given))
  | none, _ =>
    match components? text with
    | some inner =>
      readComponents (String.ofList given) ((Text.splitWhere (· == ',') inner).map Text.trim)
    | none => .error (.notColor (String.ofList given))

end UiMarkup.Color
