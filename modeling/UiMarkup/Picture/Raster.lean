import UiMarkup.Component.Color
import UiMarkup.Component.Node
import UiMarkup.Decimal.Natural
import UiMarkup.Picture.Grid
import UiMarkup.Picture.Source

namespace UiMarkup.Raster

def nativeLimit : Nat := 64

def sideLimit : Nat := 256

/-- Drops the unit of a length in pixels, as often as it stands there. -/
def dropUnits : (steps : Nat) → List Char → List Char
  | 0, text => text
  | steps + 1, text =>
    match Text.beforeEnd? ['p', 'x'] text with
    | some shorter => dropUnits steps shorter
    | none => text

def readCells? (text : String) : Option Nat :=
  let trimmed := Text.trim text.toList
  (Decimal.readNat? 10 Decimal.wordLimit (dropUnits trimmed.length trimmed)).filter (0 < ·)

def dimension (attributes : Fields String) (name : String) : Except ImageFault (Option Nat) :=
  match Fields.value? attributes name with
  | none => .ok none
  | some text =>
    match readCells? text with
    | some cells => .ok (some cells)
    | none => .error (.dimension name text)

/-- `value * part / whole` in words of sixty-four bits, but at least one and at most the largest
number of thirty-two bits. -/
def proportional (value whole part : Nat) : Nat :=
  min (max (value.toUInt64 * part.toUInt64 / whole.toUInt64).toNat 1) Decimal.wordLimit

/-- The size of the grid for the sides asked for and the sides of the picture. One side that is asked
for keeps the proportions; without any, the picture's size is used, reduced if it is too large. -/
def fit (width height : Option Nat) (nativeWidth nativeHeight : Nat) : Nat × Nat :=
  match width, height with
  | some w, some h => (w, h)
  | some w, none => (w, proportional w nativeWidth nativeHeight)
  | none, some h => (proportional h nativeHeight nativeWidth, h)
  | none, none =>
    let longest := max nativeWidth nativeHeight
    if longest ≤ nativeLimit then (nativeWidth, nativeHeight)
    else (proportional nativeLimit longest nativeWidth, proportional nativeLimit longest nativeHeight)

def gridSize (attributes : Fields String) (nativeWidth nativeHeight : Nat) :
    Except ImageFault (Nat × Nat) := do
  let width ← dimension attributes "width"
  let height ← dimension attributes "height"
  let size := fit width height (max nativeWidth 1) (max nativeHeight 1)
  if size.1 > sideLimit ∨ size.2 > sideLimit then
    throw (.tooLarge size.1 size.2 sideLimit)
  return size

def pixelSize (attributes : Fields String) : Except ImageFault Float :=
  match Fields.value? attributes "pixel-size" with
  | none => .ok 4.0
  | some text =>
    match Decimal.readReal? (Text.trim text.toList) with
    | some size => if size > 0.0 then .ok size else .error (.pixelSize text)
    | none => .error (.pixelSize text)

def runs {α : Type} [DecidableEq α] : List α → List (Nat × α)
  | [] => []
  | a :: rest =>
    match runs rest with
    | [] => [(1, a)]
    | (count, b) :: others => if a = b then (count + 1, b) :: others else (1, a) :: (count, b) :: others

def colorText (pixel : Pixel) : String :=
  let digits := Color.channelDigits pixel.red.toNat ++ Color.channelDigits pixel.green.toNat
    ++ Color.channelDigits pixel.blue.toNat
  if pixel.alpha = 255 then Color.opaqueColor digits
  else Color.withAlpha digits (pixel.alpha.toNat.toFloat / 255.0)

def size (width height : Float) : Value :=
  .object [("Width", .number width), ("Height", .number height)]

def cell (pixelSize : Float) (count : Nat) (pixel : Pixel) : Node :=
  let node := (Node.component "Group").set "Anchor" (size (count.toFloat * pixelSize) pixelSize)
  if pixel.alpha > 0 then node.set "Background" (.color (colorText pixel)) else node

def row (pixelSize : Float) (pixels : List Pixel) : Node :=
  let node := ((Node.component "Group").set "Anchor" (.object [("Height", .number pixelSize)])).set
    "LayoutMode" (.expression "Left")
  { node with children := (runs pixels).map fun (count, pixel) => cell pixelSize count pixel }

def drawing (pixelSize : Float) (width height : Nat) (rows : List (List Pixel)) : Node :=
  let node := ((Node.component "Group").set "Anchor"
    (size (width.toFloat * pixelSize) (height.toFloat * pixelSize))).set
    "LayoutMode" (.expression "Top")
  { node with children := rows.map (row pixelSize) }

def draw (attributes : Fields String) (picture : Picture) : Except ImageFault Node := do
  let (width, height) ← gridSize attributes picture.width picture.height
  let side ← pixelSize attributes
  return drawing side width height (picture.scaled width height)

def takeBytes : (limit : Nat) → List Char → List Char
  | _, [] => []
  | limit, c :: rest =>
    if c.utf8Size ≤ limit then c :: takeBytes (limit - c.utf8Size) rest else []

def shownSource (source : String) : String :=
  if source.utf8ByteSize > 48 then String.ofList (takeBytes 48 source.toList) ++ "..." else source

end UiMarkup.Raster
