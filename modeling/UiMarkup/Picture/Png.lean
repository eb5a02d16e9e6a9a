import UiMarkup.Fault
import UiMarkup.Picture.Grid
import UiMarkup.Picture.Inflate
import UiMarkup.Picture.Png.Chunk

namespace UiMarkup.Png

open Inflate (byteAt)

inductive Layout where
  | grey
  | color
  | palette
  | greyAlpha
  | colorAlpha
deriving DecidableEq

def Layout.ofCode? (code : Nat) : Option Layout :=
  match code with
  | 0 => some grey
  | 2 => some color
  | 3 => some palette
  | 4 => some greyAlpha
  | 6 => some colorAlpha
  | _ => none

def Layout.samples : Layout → Nat
  | grey => 1
  | color => 3
  | palette => 1
  | greyAlpha => 2
  | colorAlpha => 4

def Layout.depths : Layout → List Nat
  | grey => [1, 2, 4, 8, 16]
  | palette => [1, 2, 4, 8]
  | color | greyAlpha | colorAlpha => [8, 16]

structure Header where
  width : Nat
  height : Nat
  depth : Nat
  layout : Layout
  interlaced : Bool

/-- The header that bytes write. There is one way to compress and one set of filters, both of number
zero; what follows the 13 bytes of a header does not matter. -/
def Header.ofBytes? (bytes : List UInt8) : Option Header := do
  let width := number (bytes.take 4)
  let height := number ((bytes.drop 4).take 4)
  let depth := (← bytes[8]?).toNat
  let layout ← Layout.ofCode? (← bytes[9]?).toNat
  let compression ← bytes[10]?
  let filters ← bytes[11]?
  let interlace ← bytes[12]?
  guard (0 < width ∧ 0 < height ∧ depth ∈ layout.depths)
  guard (compression = 0 ∧ filters = 0 ∧ interlace ≤ 1)
  return ⟨width, height, depth, layout, interlace == 1⟩

def Header.pixelBits (header : Header) : Nat :=
  header.depth * header.layout.samples

def Header.rowBytes (header : Header) (width : Nat) : Nat :=
  (width * header.pixelBits + 7) / 8

/-- The one of the left, upper and upper left bytes that is nearest to left + upper - upper left. -/
def paeth (left upper corner : UInt8) : UInt8 :=
  let a := left.toNat
  let b := upper.toNat
  let c := corner.toNat
  let distance (x : Nat) : Nat := if a + b ≥ c + x then a + b - (c + x) else c + x - (a + b)
  if distance a ≤ distance b ∧ distance a ≤ distance c then left
  else if distance b ≤ distance c then upper
  else corner

def predict (filter : Nat) (left upper corner : UInt8) : UInt8 :=
  match filter with
  | 1 => left
  | 2 => upper
  | 3 => UInt8.ofNat ((left.toNat + upper.toNat) / 2)
  | 4 => paeth left upper corner
  | _ => 0

/-- Adds the last `count` bytes of a row of `length` bytes to `done`, which holds all that stands
before them, rows without filters. The row starts at `start` of `raw`; `step` is the number of bytes
of a pixel. -/
def unfilter (filter step length start : Nat) (raw : ByteArray) :
    (count : Nat) → (done : ByteArray) → ByteArray
  | 0, done => done
  | count + 1, done =>
    let column := length - (count + 1)
    let place := done.size
    let left := if step ≤ column then byteAt done (place - step) else 0
    let upper := if length ≤ place then byteAt done (place - length) else 0
    let corner := if step ≤ column ∧ length ≤ place then byteAt done (place - length - step) else 0
    let value := byteAt raw (start + column) + predict filter left upper corner
    unfilter filter step length start raw count (done.push value)

def readRows (step length : Nat) (raw : ByteArray) :
    (count start : Nat) → (done : ByteArray) → Option ByteArray
  | 0, _, done => some done
  | count + 1, start, done =>
    let filter := byteAt raw start
    if filter ≤ 4 then
      readRows step length raw count (start + length + 1)
        (unfilter filter.toNat step length (start + 1) raw length done)
    else none

def sampleAt (depth start : Nat) (rows : ByteArray) (index : Nat) : Nat :=
  let byte (place : Nat) : Nat := (byteAt rows (start + place)).toNat
  if depth = 16 then byte (2 * index) * 256 + byte (2 * index + 1)
  else
    let bit := index * depth
    byte (bit / 8) / Nat.pow 2 (8 - depth - bit % 8) % Nat.pow 2 depth

def toByte (depth sample : Nat) : UInt8 :=
  if depth = 16 then UInt8.ofNat ((sample + 128) / 257)
  else UInt8.ofNat (sample * 255 / (Nat.pow 2 depth - 1))

inductive Transparency where
  | key (bytes : List UInt8)
  | entries (alphas : List UInt8)

def sampleBytes (depth : Nat) (samples : List Nat) : List UInt8 :=
  samples.flatMap fun sample =>
    if depth = 16 then [UInt8.ofNat (sample / 256), UInt8.ofNat sample] else [UInt8.ofNat sample]

/-- The transparency that a chunk of a picture with a header and palette tells. A key has two bytes
for each sample, of which smaller samples use the second. Opacities must come behind the palette; if
there are more of them than entries they do not count. -/
def Header.transparency? (header : Header) (palette : Option (List UInt8)) (data : List UInt8) :
    Option Transparency :=
  match header.layout with
  | .grey | .color =>
    let samples := header.layout.samples
    if data.length < 2 * samples then none
    else if header.depth = 16 then some (.key data)
    else some (.key ((List.range samples).map fun i => data.getD (2 * i + 1) 0))
  | .palette => palette.map fun colors =>
    .entries (if data.length ≤ colors.length / 3 then data else [])
  | .greyAlpha | .colorAlpha => none

structure Meaning where
  header : Header
  palette : Option (List UInt8)
  transparency : Option Transparency

/-- The meaning of the colours, given one more chunk from before the data of the picture. There is one
header and at most one palette; the first transparency that can be used counts. -/
def Meaning.add (meaning : Meaning) (chunk : Chunk) : Option Meaning :=
  if !chunk.intact then
    if chunk.ancillary then some meaning else none
  else if chunk.hasKind "IHDR" || chunk.hasKind "IEND" then none
  else if chunk.hasKind "PLTE" then
    if meaning.palette.isSome then none else some { meaning with palette := some chunk.data }
  else if chunk.hasKind "tRNS" && meaning.transparency.isNone then
    some { meaning with
      transparency := meaning.header.transparency? meaning.palette chunk.data }
  else some meaning

def memoryLimit : Nat := 536870912

def Meaning.memory (meaning : Meaning) : Nat :=
  let added := if meaning.transparency.isSome then 1 else 0
  let samples := match meaning.header.layout with
    | .grey => 1 + added
    | .color | .palette => 3 + added
    | .greyAlpha => 2
    | .colorAlpha => 4
  let size := if meaning.header.depth = 16 then 2 else 1
  meaning.header.width * meaning.header.height * samples * size

def Meaning.alpha (meaning : Meaning) (samples : List Nat) : UInt8 :=
  match meaning.transparency with
  | some (.key bytes) => if sampleBytes meaning.header.depth samples == bytes then 0 else 255
  | some (.entries alphas) => alphas.getD (samples.headD 0) 255
  | none => 255

def Meaning.pixel (meaning : Meaning) (samples : List Nat) : Pixel :=
  let byte := toByte meaning.header.depth
  match meaning.header.layout, samples with
  | .grey, [v] => ⟨byte v, byte v, byte v, meaning.alpha samples⟩
  | .color, [r, g, b] => ⟨byte r, byte g, byte b, meaning.alpha samples⟩
  | .palette, [index] =>
    let entry (offset : Nat) : UInt8 := (meaning.palette.getD []).getD (3 * index + offset) 0
    ⟨entry 0, entry 1, entry 2, meaning.alpha samples⟩
  | .greyAlpha, [v, a] => ⟨byte v, byte v, byte v, byte a⟩
  | .colorAlpha, [r, g, b, a] => ⟨byte r, byte g, byte b, byte a⟩
  | _, _ => Picture.clear

def Meaning.pixelAt (meaning : Meaning) (rows : ByteArray) (start column : Nat) : Pixel :=
  let count := meaning.header.layout.samples
  meaning.pixel ((List.range count).map fun i =>
    sampleAt meaning.header.depth start rows (column * count + i))

/-- A part of the picture that is written on its own: every `stepX`th column from `startX`, every
`stepY`th row from `startY`. -/
structure Pass where
  startX : Nat
  startY : Nat
  stepX : Nat
  stepY : Nat

def interlacedPasses : List Pass :=
  [⟨0, 0, 8, 8⟩, ⟨4, 0, 8, 8⟩, ⟨0, 4, 4, 8⟩, ⟨2, 0, 4, 4⟩, ⟨0, 2, 2, 4⟩, ⟨1, 0, 2, 2⟩, ⟨0, 1, 1, 2⟩]

def Header.passes (header : Header) : List Pass :=
  if header.interlaced then interlacedPasses else [⟨0, 0, 1, 1⟩]

def Pass.covers (pass : Pass) (x y : Nat) : Bool :=
  pass.startX ≤ x && (x - pass.startX) % pass.stepX == 0
    && pass.startY ≤ y && (y - pass.startY) % pass.stepY == 0

structure Scan where
  pass : Pass
  length : Nat
  rows : ByteArray

def Header.passSize (header : Header) (pass : Pass) : Nat × Nat :=
  ((header.width + pass.stepX - 1 - pass.startX) / pass.stepX,
    (header.height + pass.stepY - 1 - pass.startY) / pass.stepY)

def Header.passBytes (header : Header) (pass : Pass) : Nat :=
  let (columns, rows) := header.passSize pass
  if columns = 0 then 0 else rows * (header.rowBytes columns + 1)

def Header.scans (header : Header) (raw : ByteArray) : List Pass → (start : Nat) → Option (List Scan)
  | [], _ => some []
  | pass :: rest, start =>
    let (columns, count) := header.passSize pass
    if columns = 0 then header.scans raw rest start
    else do
      let length := header.rowBytes columns
      let rows ← readRows (max 1 (header.pixelBits / 8)) length raw count start .empty
      return ⟨pass, length, rows⟩ :: (← header.scans raw rest (start + header.passBytes pass))

def Meaning.find (meaning : Meaning) (scans : List Scan) (x y : Nat) : Pixel :=
  match scans.find? fun scan => scan.pass.covers x y with
  | some ⟨pass, length, rows⟩ =>
    meaning.pixelAt rows ((y - pass.startY) / pass.stepY * length) ((x - pass.startX) / pass.stepX)
  | none => Picture.clear

def Meaning.ofChunks? : List Chunk → Option Meaning
  | [] => none
  | first :: rest => do
    guard (first.intact && first.hasKind "IHDR")
    rest.foldlM Meaning.add ⟨← Header.ofBytes? first.data, none, none⟩

def Meaning.scans? (meaning : Meaning) (stream : List UInt8) : Option (List Scan) := do
  let header := meaning.header
  guard (header.layout != .palette || meaning.palette.isSome)
  let wanted := header.passes.foldl (fun total pass => total + header.passBytes pass) 0
  header.scans (← Inflate.expand wanted stream) header.passes 0

/-- The picture in a file. Its data is in the first chunks of their kind that follow each other. -/
def decode (bytes : List UInt8) : Except FormatFault Picture := do
  if bytes.take 8 != signature then
    throw .damaged
  let all := Chunk.readAll (bytes.drop 8) bytes
  let isData := Chunk.hasKind "IDAT"
  let data := (all.dropWhile fun chunk => !isData chunk).takeWhile isData
  let some meaning := Meaning.ofChunks? (all.takeWhile fun chunk => !isData chunk) | throw .damaged
  if memoryLimit < meaning.memory then
    throw .tooLarge
  if !data.all Chunk.intact then
    throw .damaged
  let some scans := meaning.scans? (data.flatMap Chunk.data) | throw .damaged
  return ⟨meaning.header.width, meaning.header.height, meaning.find scans⟩

end UiMarkup.Png
