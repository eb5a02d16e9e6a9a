namespace UiMarkup.Decimal

def digitValue? (base : Nat) (c : Char) : Option Nat :=
  let n := c.toNat
  let value :=
    if 48 ≤ n ∧ n ≤ 57 then n - 48
    else if 97 ≤ n ∧ n ≤ 102 then n - 87
    else if 65 ≤ n ∧ n ≤ 70 then n - 55
    else base
  if value < base then some value else none

def digitsValue? (base : Nat) (start : Nat) : List Char → Option Nat
  | [] => some start
  | c :: rest =>
    match digitValue? base c with
    | some digit => digitsValue? base (start * base + digit) rest
    | none => none

def unsigned : List Char → List Char
  | '+' :: digits => digits
  | digits => digits

def boundedValue? (base limit : Nat) (start : Nat) : List Char → Option Nat
  | [] => if start ≤ limit then some start else none
  | c :: rest =>
    match digitValue? base c with
    | some digit =>
      if start ≤ limit then boundedValue? base limit (start * base + digit) rest else none
    | none => none

theorem boundedValue?_le {base limit start value : Nat} {text : List Char}
    (read : boundedValue? base limit start text = some value) : value ≤ limit := by
  induction text generalizing start with
  | nil => grind [boundedValue?]
  | cons c rest ih =>
    unfold boundedValue? at read
    split at read
    · split at read
      · exact ih read
      · contradiction
    · contradiction

def readNat? (base limit : Nat) (text : List Char) : Option Nat :=
  if (unsigned text).isEmpty then none else boundedValue? base limit 0 (unsigned text)

theorem readNat?_le {base limit value : Nat} {text : List Char}
    (read : readNat? base limit text = some value) : value ≤ limit := by
  unfold readNat? at read
  split at read
  · contradiction
  · exact boundedValue?_le read

def byteLimit : Nat := 255

def wordLimit : Nat := 4294967295

end UiMarkup.Decimal
