import UiMarkup.Fault

namespace UiMarkup.Base64

def pad : UInt8 := 61

def symbol? (byte : UInt8) : Option Nat :=
  let n := byte.toNat
  if 65 ≤ n ∧ n ≤ 90 then some (n - 65)
  else if 97 ≤ n ∧ n ≤ 122 then some (n - 71)
  else if 48 ≤ n ∧ n ≤ 57 then some (n + 4)
  else if n = 43 then some 62
  else if n = 47 then some 63
  else none

def symbol (offset : Nat) (byte : UInt8) : Except Base64Fault Nat :=
  match symbol? byte with
  | some bits => .ok bits
  | none => .error (.symbol byte offset)

def groupBytes (a b c d : Nat) : List UInt8 :=
  let bits := ((a * 64 + b) * 64 + c) * 64 + d
  [UInt8.ofNat (bits / 65536), UInt8.ofNat (bits / 256 % 256), UInt8.ofNat (bits % 256)]

structure Tail where
  symbols : List (Nat × UInt8)
  padding : Nat

def readTail (offset index : Nat) (tail : Tail) : List UInt8 → Except Base64Fault Tail
  | [] => .ok tail
  | byte :: rest =>
    if byte = pad then
      if index < 2 then .error (.symbol byte (offset + index))
      else readTail offset (index + 1) { tail with padding := tail.padding + 1 } rest
    else if 0 < tail.padding then .error (.symbol pad (offset + index - tail.padding))
    else do
      let bits ← symbol (offset + index) byte
      readTail offset (index + 1) { tail with symbols := tail.symbols ++ [(bits, byte)] } rest

/-- The bytes of the last group, of which the bits that no byte uses have to be zero. -/
def tailBytes (offset : Nat) (tail : Tail) : Except Base64Fault (List UInt8) :=
  if tail.symbols.length < 2 then .error (.length (offset + tail.symbols.length))
  else if (tail.symbols.length + tail.padding) % 4 ≠ 0 then .error .padding
  else
    match tail.symbols with
    | [(a, _), (b, last)] =>
      if b % 16 = 0 then .ok ((groupBytes a b 0 0).take 1) else .error (.lastSymbol last (offset + 1))
    | [(a, _), (b, _), (c, last)] =>
      if c % 4 = 0 then .ok ((groupBytes a b c 0).take 2) else .error (.lastSymbol last (offset + 2))
    | [(a, _), (b, _), (c, _), (d, _)] => .ok (groupBytes a b c d)
    | _ => .error .padding

def decodeGroups (offset : Nat) : List UInt8 → Except Base64Fault (List UInt8)
  | [] => .ok []
  | a :: b :: c :: d :: next :: rest => do
    let bytes := groupBytes (← symbol offset a) (← symbol (offset + 1) b) (← symbol (offset + 2) c)
      (← symbol (offset + 3) d)
    return bytes ++ (← decodeGroups (offset + 4) (next :: rest))
  | bytes => do tailBytes offset (← readTail offset 0 ⟨[], 0⟩ bytes)

/-- The bytes that a text of symbols stands for. A stray character at the very end is reported
before anything else. -/
def decode (bytes : List UInt8) : Except Base64Fault (List UInt8) :=
  match bytes.getLast? with
  | some last =>
    if bytes.length % 4 = 1 ∧ last ≠ pad ∧ symbol? last = none then
      .error (.symbol last (bytes.length - 1))
    else decodeGroups 0 bytes
  | none => .ok []

end UiMarkup.Base64
