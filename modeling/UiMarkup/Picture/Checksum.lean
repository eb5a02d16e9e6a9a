namespace UiMarkup.Checksum

/-- The divisor, its highest bit left out and its bits in reverse. -/
def divisor : UInt32 := 0xEDB88320

def divide : (count : Nat) → UInt32 → UInt32
  | 0, rest => rest
  | count + 1, rest =>
    divide count (if rest &&& 1 = 1 then (rest >>> 1) ^^^ divisor else rest >>> 1)

def table : Array UInt32 :=
  (Array.range 256).map fun byte => divide 8 (UInt32.ofNat byte)

def addByte (rest : UInt32) (byte : UInt8) : UInt32 :=
  (rest >>> 8) ^^^ table.getD ((rest &&& 0xFF) ^^^ byte.toUInt32).toNat 0

/-- The check sum of bytes: the remainder, with all bits flipped before the first byte and after the
last. -/
def ofBytes (bytes : List UInt8) : UInt32 :=
  bytes.foldl addByte 0xFFFFFFFF ^^^ 0xFFFFFFFF

end UiMarkup.Checksum
