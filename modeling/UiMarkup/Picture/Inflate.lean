namespace UiMarkup.Inflate

/-- Bytes to read bit by bit, the lowest bit of a byte first. -/
structure Bits where
  bytes : List UInt8
  used : Nat

namespace Bits

def next? : Bits → Option (Bool × Bits)
  | ⟨[], _⟩ => none
  | ⟨byte :: rest, used⟩ =>
    some (byte.toNat.testBit used, if used = 7 then ⟨rest, 0⟩ else ⟨byte :: rest, used + 1⟩)

def whole : Bits → List UInt8
  | ⟨bytes, 0⟩ => bytes
  | ⟨bytes, _⟩ => bytes.drop 1

def bound (bits : Bits) : Nat :=
  8 * bits.bytes.length

end Bits

def takeNumber : (count : Nat) → Bits → Option (Nat × Bits)
  | 0, bits => some (0, bits)
  | count + 1, bits => do
    let (bit, rest) ← bits.next?
    let (high, after) ← takeNumber count rest
    return (2 * high + bit.toNat, after)

inductive Code where
  | vacant
  | leaf (symbol : Nat)
  | branch (zero one : Code)

namespace Code

def insert (symbol : Nat) : List Bool → Code → Code
  | [], _ => .leaf symbol
  | false :: path, .branch zero one => .branch (insert symbol path zero) one
  | true :: path, .branch zero one => .branch zero (insert symbol path one)
  | false :: path, _ => .branch (insert symbol path .vacant) .vacant
  | true :: path, _ => .branch .vacant (insert symbol path .vacant)

def read? : Code → Bits → Option (Nat × Bits)
  | .leaf symbol, bits => some (symbol, bits)
  | .vacant, _ => none
  | .branch zero one, bits =>
    match bits.next? with
    | some (true, rest) => one.read? rest
    | some (false, rest) => zero.read? rest
    | none => none

def path (length number : Nat) : List Bool :=
  ((List.range length).map fun i => number.testBit i).reverse

/-- Adds the symbols with codes of one length, in order from `symbol` on; `next` is the first free
code. Returns the next free code too. -/
def addLength (length : Nat) : (symbol next : Nat) → List Nat → Code → Code × Nat
  | _, next, [], code => (code, next)
  | symbol, next, size :: sizes, code =>
    if size = length then
      addLength length (symbol + 1) (next + 1) sizes (code.insert symbol (path length next))
    else addLength length (symbol + 1) next sizes code

def addLengths (sizes : List Nat) : (count length next : Nat) → Code → Code
  | 0, _, _, code => code
  | count + 1, length, next, code =>
    let (code, next) := addLength length 0 next sizes code
    addLengths sizes count (length + 1) (2 * next) code

/-- The code that gives each symbol a bit sequence of the listed size, shorter and earlier ones
first; size zero means no sequence. -/
def ofSizes (sizes : List Nat) : Code :=
  addLengths sizes 15 1 0 .vacant

end Code

def lengthTable : List (Nat × Nat) := [
  (0, 3), (0, 4), (0, 5), (0, 6), (0, 7), (0, 8), (0, 9), (0, 10), (1, 11), (1, 13), (1, 15),
  (1, 17), (2, 19), (2, 23), (2, 27), (2, 31), (3, 35), (3, 43), (3, 51), (3, 59), (4, 67), (4, 83),
  (4, 99), (4, 115), (5, 131), (5, 163), (5, 195), (5, 227), (0, 258)]

def distanceTable : List (Nat × Nat) := [
  (0, 1), (0, 2), (0, 3), (0, 4), (1, 5), (1, 7), (2, 9), (2, 13), (3, 17), (3, 25), (4, 33), (4, 49),
  (5, 65), (5, 97), (6, 129), (6, 193), (7, 257), (7, 385), (8, 513), (8, 769), (9, 1025), (9, 1537),
  (10, 2049), (10, 3073), (11, 4097), (11, 6145), (12, 8193), (12, 12289), (13, 16385), (13, 24577)]

def readEntry? (table : List (Nat × Nat)) (symbol : Nat) (bits : Bits) : Option (Nat × Bits) := do
  let (extra, base) ← table[symbol]?
  let (more, rest) ← takeNumber extra bits
  return (base + more, rest)

def byteAt (bytes : ByteArray) (place : Nat) : UInt8 :=
  if h : place < bytes.size then bytes[place] else 0

def copyBack (distance : Nat) : (length : Nat) → ByteArray → ByteArray
  | 0, out => out
  | length + 1, out => copyBack distance length (out.push (byteAt out (out.size - distance)))

structure Codes where
  symbols : Code
  distances : Code

def readSymbols (codes : Codes) (wanted : Nat) :
    (steps : Nat) → Bits → ByteArray → Option (ByteArray × Bits)
  | 0, _, _ => none
  | steps + 1, bits, out =>
    if wanted ≤ out.size then some (out, bits)
    else do
      let (symbol, rest) ← codes.symbols.read? bits
      if symbol < 256 then readSymbols codes wanted steps rest (out.push (UInt8.ofNat symbol))
      else if symbol = 256 then return (out, rest)
      else
        let (length, rest) ← readEntry? lengthTable (symbol - 257) rest
        let (symbol, rest) ← codes.distances.read? rest
        let (distance, rest) ← readEntry? distanceTable symbol rest
        if distance ≤ out.size then readSymbols codes wanted steps rest (copyBack distance length out)
        else none

def fixedCodes : Codes where
  symbols := .ofSizes (List.replicate 144 8 ++ List.replicate 112 9 ++ List.replicate 24 7
    ++ List.replicate 8 8)
  distances := .ofSizes (List.replicate 30 5)

def sizeOrder : List Nat :=
  [16, 17, 18, 0, 8, 7, 9, 6, 10, 5, 11, 4, 12, 3, 13, 2, 14, 1, 15]

def readSizes3 : (count : Nat) → Bits → Option (List Nat × Bits)
  | 0, bits => some ([], bits)
  | count + 1, bits => do
    let (size, rest) ← takeNumber 3 bits
    let (others, last) ← readSizes3 count rest
    return (size :: others, last)

def readSizes (code : Code) (wanted : Nat) :
    (steps : Nat) → (sizes : List Nat) → Bits → Option (List Nat × Bits)
  | 0, sizes, bits => if sizes.length = wanted then some (sizes.reverse, bits) else none
  | steps + 1, sizes, bits =>
    if wanted ≤ sizes.length then
      if sizes.length = wanted then some (sizes.reverse, bits) else none
    else do
      let (symbol, rest) ← code.read? bits
      if symbol < 16 then readSizes code wanted steps (symbol :: sizes) rest
      else if symbol = 16 then
        let (more, rest) ← takeNumber 2 rest
        readSizes code wanted steps (List.replicate (3 + more) (← sizes.head?) ++ sizes) rest
      else if symbol = 17 then
        let (more, rest) ← takeNumber 3 rest
        readSizes code wanted steps (List.replicate (3 + more) 0 ++ sizes) rest
      else
        let (more, rest) ← takeNumber 7 rest
        readSizes code wanted steps (List.replicate (11 + more) 0 ++ sizes) rest

def readCodes (bits : Bits) : Option (Codes × Bits) := do
  let (literals, rest) ← takeNumber 5 bits
  let (distances, rest) ← takeNumber 5 rest
  let (sizeCount, rest) ← takeNumber 4 rest
  let (written, rest) ← readSizes3 (sizeCount + 4) rest
  let pairs := sizeOrder.zip written
  let sizeCode := Code.ofSizes ((List.range 19).map fun symbol => (pairs.lookup symbol).getD 0)
  let wanted := literals + 257 + distances + 1
  let (sizes, rest) ← readSizes sizeCode wanted wanted [] rest
  return (⟨.ofSizes (sizes.take (literals + 257)), .ofSizes (sizes.drop (literals + 257))⟩, rest)

def readBytes (wanted : Nat) :
    (count : Nat) → List UInt8 → ByteArray → Option (ByteArray × List UInt8)
  | 0, bytes, out => some (out, bytes)
  | count + 1, bytes, out =>
    if wanted ≤ out.size then some (out, bytes)
    else
      match bytes with
      | byte :: rest => readBytes wanted count rest (out.push byte)
      | [] => none

def readStored (wanted : Nat) (bits : Bits) (out : ByteArray) : Option (ByteArray × Bits) := do
  let (length, rest) ← takeNumber 16 ⟨bits.whole, 0⟩
  let (flipped, rest) ← takeNumber 16 rest
  guard (length + flipped = 65535)
  let (out, after) ← readBytes wanted length rest.whole out
  return (out, ⟨after, 0⟩)

def readBlocks (wanted : Nat) : (steps : Nat) → Bits → ByteArray → Option ByteArray
  | 0, _, _ => none
  | steps + 1, bits, out =>
    if wanted ≤ out.size then some out
    else do
      let (last, rest) ← takeNumber 1 bits
      let (kind, rest) ← takeNumber 2 rest
      let (out, rest) ←
        if kind = 0 then readStored wanted rest out
        else if kind = 1 then readSymbols fixedCodes wanted (rest.bound + 1) rest out
        else if kind = 2 then do
          let (codes, rest) ← readCodes rest
          readSymbols codes wanted (rest.bound + 1) rest out
        else none
      if last = 1 then return out else readBlocks wanted steps rest out

/-- Whether the two bytes before the blocks are right: they name the method and a window of at most
32768 bytes, ask for no preset data, and are divisible by 31 as a number. -/
def startsWell (first second : UInt8) : Bool :=
  first &&& 0x0F == 8 && first ≤ 0x7F && second &&& 0x20 == 0
    && (first.toNat * 256 + second.toNat) % 31 == 0

/-- The first `wanted` bytes of a stream, or some more. The check sum behind the blocks is not looked
at. -/
def expand (wanted : Nat) : (stream : List UInt8) → Option ByteArray
  | first :: second :: blocks => do
    guard (startsWell first second)
    let bits : Bits := ⟨blocks, 0⟩
    let out ← readBlocks wanted (bits.bound + 1) bits .empty
    guard (wanted ≤ out.size)
    return out
  | _ => none

end UiMarkup.Inflate
