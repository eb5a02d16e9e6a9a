namespace UiMarkup

structure Pixel where
  red : UInt8
  green : UInt8
  blue : UInt8
  alpha : UInt8
deriving DecidableEq, Repr

structure Picture where
  width : Nat
  height : Nat
  pixel : (x y : Nat) → Pixel

namespace Picture

def clear : Pixel := ⟨0, 0, 0, 0⟩

def ofPixels (width height : Nat) (pixels : Array Pixel) : Picture :=
  ⟨width, height, fun x y => pixels.getD (y * width + x) clear⟩

/-- The cell, of `size` on an axis, that the middle of cell `index` of `wanted` falls into. The
middle is found with numbers of single precision. -/
def nearestIndex (size wanted index : Nat) : Nat :=
  let ratio := size.toFloat32 / wanted.toFloat32
  min ((index.toFloat32 + 0.5) * ratio).toUInt64.toNat (size - 1)

def scaled (picture : Picture) (width height : Nat) : List (List Pixel) :=
  (List.range height).map fun y =>
    (List.range width).map fun x =>
      picture.pixel (nearestIndex picture.width width x) (nearestIndex picture.height height y)

end Picture

end UiMarkup
