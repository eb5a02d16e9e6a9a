import UiMarkup.Picture.Checksum

namespace UiMarkup.Png

def signature : List UInt8 := [0x89, 0x50, 0x4E, 0x47, 0x0D, 0x0A, 0x1A, 0x0A]

def number (bytes : List UInt8) : Nat :=
  bytes.foldl (fun n byte => n * 256 + byte.toNat) 0

structure Chunk where
  kind : List UInt8
  data : List UInt8
  sum : Nat

namespace Chunk

def read? (bytes : List UInt8) : Option (Chunk × List UInt8) :=
  let length := number (bytes.take 4)
  let body := bytes.drop 4
  let after := body.drop (4 + length)
  let sum := after.take 4
  if sum.length = 4 then
    some (⟨body.take 4, (body.drop 4).take length, number sum⟩, after.drop 4)
  else none

def readAll : (bytes bound : List UInt8) → List Chunk
  | _, [] => []
  | bytes, _ :: bound =>
    match read? bytes with
    | some (chunk, rest) => chunk :: readAll rest bound
    | none => []

def hasKind (kind : String) (chunk : Chunk) : Bool :=
  chunk.kind == kind.toUTF8.toList

def intact (chunk : Chunk) : Bool :=
  (Checksum.ofBytes (chunk.kind ++ chunk.data)).toNat == chunk.sum

/-- Whether a picture can be shown without the chunk: its kind starts with a small letter. -/
def ancillary (chunk : Chunk) : Bool :=
  chunk.kind.head?.any fun letter => letter &&& 0x20 != 0

end Chunk

end UiMarkup.Png
