import UiMarkup.Decimal.Real
import UiMarkup.Settings.Toml.Value
import UiMarkup.Text.Cut

namespace UiMarkup.Toml

def isControl (c : Char) : Bool :=
  (c.toNat < 0x20 && c != '\t') || c.toNat == 0x7F

def isSpace (c : Char) : Bool :=
  c == ' ' || c == '\t'

def afterNewline? : List Char → Option (List Char)
  | '\n' :: rest => some rest
  | '\r' :: '\n' :: rest => some rest
  | _ => none

def codeChar? (digits : List Char) : Option Char := do
  let code ← Decimal.digitsValue? 16 0 digits
  if code.isValidChar then some (Char.ofNat code) else none

def escape? : List Char → Option (Char × Nat)
  | 'b' :: _ => some ('\x08', 1)
  | 't' :: _ => some ('\t', 1)
  | 'n' :: _ => some ('\n', 1)
  | 'f' :: _ => some ('\x0c', 1)
  | 'r' :: _ => some ('\r', 1)
  | 'e' :: _ => some ('\x1b', 1)
  | '"' :: _ => some ('"', 1)
  | '\\' :: _ => some ('\\', 1)
  | 'x' :: a :: b :: _ => (codeChar? [a, b]).map fun c => (c, 3)
  | 'u' :: a :: b :: c :: d :: _ => (codeChar? [a, b, c, d]).map fun c => (c, 5)
  | 'U' :: rest =>
    if rest.length < 8 then none else (codeChar? (rest.take 8)).map fun c => (c, 9)
  | _ => none

def readBasic : (skip : Nat) → List Char → Option (List Char × List Char)
  | _, [] => none
  | skip + 1, _ :: rest => readBasic skip rest
  | 0, c :: rest =>
    if c = '"' then some ([], rest)
    else if c = '\\' then do
      let (decoded, length) ← escape? rest
      let (text, after) ← readBasic length rest
      return (decoded :: text, after)
    else if isControl c then none
    else (readBasic 0 rest).map fun (text, after) => (c :: text, after)

def readLiteral : List Char → Option (List Char × List Char)
  | [] => none
  | c :: rest =>
    if c = '\'' then some ([], rest)
    else if isControl c then none
    else (readLiteral rest).map fun (text, after) => (c :: text, after)

def quoteCount (quote : Char) (text : List Char) : Nat :=
  (text.takeWhile (· == quote)).length

/-- The end of a string of several lines, at a place where at least three quotes stand: up to two of
them belong to the string. -/
def closeLines (quote : Char) (text : List Char) : List Char × List Char :=
  let inside := min (quoteCount quote text) 5 - 3
  (List.replicate inside quote, text.drop (inside + 3))

def isLineEnd (text : List Char) : Bool :=
  (afterNewline? text).isSome

def gapLength : List Char → Nat
  | '\r' :: '\n' :: rest => gapLength rest + 2
  | c :: rest => if isSpace c || c == '\n' then gapLength rest + 1 else 0
  | [] => 0

/-- The length of the blanks and line ends that a backslash at the end of a line joins over; none if
no line end is the first thing after the blanks. -/
def joinedLength? (text : List Char) : Option Nat :=
  if isLineEnd (text.dropWhile isSpace) then some (gapLength text) else none

def readBasicLines : (skip : Nat) → List Char → Option (List Char × List Char)
  | _, [] => none
  | skip + 1, _ :: rest => readBasicLines skip rest
  | 0, c :: rest =>
    if c = '"' ∧ 3 ≤ quoteCount '"' (c :: rest) then some (closeLines '"' (c :: rest))
    else if c = '\\' then
      match joinedLength? rest with
      | some length => readBasicLines length rest
      | none => do
        let (decoded, length) ← escape? rest
        let (text, after) ← readBasicLines length rest
        return (decoded :: text, after)
    else if isControl c ∧ !isLineEnd (c :: rest) then none
    else (readBasicLines 0 rest).map fun (text, after) => (c :: text, after)

def readLiteralLines : List Char → Option (List Char × List Char)
  | [] => none
  | c :: rest =>
    if c = '\'' ∧ 3 ≤ quoteCount '\'' (c :: rest) then some (closeLines '\'' (c :: rest))
    else if isControl c ∧ !isLineEnd (c :: rest) then none
    else (readLiteralLines rest).map fun (text, after) => (c :: text, after)

def withoutFirstNewline (text : List Char) : List Char :=
  (afterNewline? text).getD text

def readString : List Char → Option (List Char × List Char)
  | '"' :: '"' :: '"' :: rest => readBasicLines 0 (withoutFirstNewline rest)
  | '\'' :: '\'' :: '\'' :: rest => readLiteralLines (withoutFirstNewline rest)
  | '"' :: rest => readBasic 0 rest
  | '\'' :: rest => readLiteral rest
  | _ => none

def areDigits (base : Nat) : List Char → Bool
  | [] => false
  | [c] => (Decimal.digitValue? base c).isSome
  | c :: '_' :: rest => (Decimal.digitValue? base c).isSome && areDigits base rest
  | c :: rest => (Decimal.digitValue? base c).isSome && areDigits base rest

def digitsNumber? (base : Nat) (text : List Char) : Option Nat :=
  if areDigits base text then Decimal.digitsValue? base 0 (text.filter (· != '_')) else none

def wholeNumber? (text : List Char) : Option Nat :=
  match text with
  | ['0'] => some 0
  | '0' :: _ => none
  | _ => digitsNumber? 10 text

def splitSign : List Char → Bool × List Char
  | '-' :: rest => (true, rest)
  | '+' :: rest => (false, rest)
  | rest => (false, rest)

def integer? (text : List Char) : Option Int :=
  match text with
  | '0' :: 'x' :: digits => (digitsNumber? 16 digits).map fun n => (n : Int)
  | '0' :: 'o' :: digits => (digitsNumber? 8 digits).map fun n => (n : Int)
  | '0' :: 'b' :: digits => (digitsNumber? 2 digits).map fun n => (n : Int)
  | _ =>
    let (negative, digits) := splitSign text
    (wholeNumber? digits).map fun n => if negative then -(n : Int) else n

/-- Reads a number with a point or a power of ten, or one of the special numbers, and tells whether it
is not too large for a floating-point number. -/
def float? (text : List Char) : Option Bool :=
  let (_, magnitude) := splitSign text
  if magnitude = ['i', 'n', 'f'] ∨ magnitude = ['n', 'a', 'n'] then some true
  else
    let mantissa := magnitude.takeWhile fun c => c != 'e' && c != 'E'
    let power := magnitude.drop mantissa.length
    let powerFits := match power with
      | [] => true
      | _ :: exponent => areDigits 10 (splitSign exponent).2
    let isWritten := match Text.cutAt? '.' mantissa with
      | some (whole, fraction) =>
        (wholeNumber? whole).isSome && areDigits 10 fraction && powerFits
      | none => (wholeNumber? mantissa).isSome && !power.isEmpty && powerFits
    if isWritten then some (Decimal.readFinite? (magnitude.filter (· != '_'))).isSome else none

def fixedDigits? (count : Nat) (text : List Char) : Option (Nat × List Char) :=
  let digits := text.take count
  if digits.length = count ∧ digits.all Char.isDigit then
    (Decimal.digitsValue? 10 0 digits).map fun n => (n, text.drop count)
  else none

def isLeapYear (year : Nat) : Bool :=
  year % 4 == 0 && (year % 100 != 0 || year % 400 == 0)

def daysInMonth (year month : Nat) : Nat :=
  if month = 2 then (if isLeapYear year then 29 else 28)
  else if month = 4 ∨ month = 6 ∨ month = 9 ∨ month = 11 then 30
  else 31

def afterDate? (text : List Char) : Option (List Char) := do
  let (year, rest) ← fixedDigits? 4 text
  let (month, rest) ← fixedDigits? 2 (← Text.afterStart? ['-'] rest)
  let (day, rest) ← fixedDigits? 2 (← Text.afterStart? ['-'] rest)
  if 1 ≤ month ∧ month ≤ 12 ∧ 1 ≤ day ∧ day ≤ daysInMonth year month then some rest else none

def afterFraction? : List Char → Option (List Char)
  | '.' :: rest =>
    if (rest.takeWhile Char.isDigit).isEmpty then none else some (rest.dropWhile Char.isDigit)
  | rest => some rest

def afterTime? (text : List Char) : Option (List Char) := do
  let (hour, rest) ← fixedDigits? 2 text
  let (minute, rest) ← fixedDigits? 2 (← Text.afterStart? [':'] rest)
  if hour ≤ 23 ∧ minute ≤ 59 then
    match rest with
    | ':' :: rest =>
      let (second, rest) ← fixedDigits? 2 rest
      if second ≤ 60 then afterFraction? rest else none
    | _ => some rest
  else none

def isOffset (text : List Char) : Bool :=
  match text with
  | [] => true
  | ['Z'] | ['z'] => true
  | sign :: rest =>
    (sign == '+' || sign == '-') &&
      match fixedDigits? 2 rest with
      | some (hour, ':' :: rest) =>
        match fixedDigits? 2 rest with
        | some (minute, []) => hour ≤ 23 && minute ≤ 59
        | _ => false
      | _ => false

def isDatetime (text : List Char) : Bool :=
  match afterDate? text with
  | some [] => true
  | some (mark :: time) =>
    (mark == 'T' || mark == 't' || mark == ' ') &&
      match afterTime? time with
      | some offset => isOffset offset
      | none => false
  | none => afterTime? text == some []

def scalar? (text : List Char) : Option Value :=
  if text = "true".toList then some (.boolean true)
  else if text = "false".toList then some (.boolean false)
  else
    match integer? text, float? text with
    | some n, _ => some (.integer n)
    | none, some near => some (.float near)
    | none, none => if isDatetime text then some (.datetime (String.ofList text)) else none

def isScalarPart (c : Char) : Bool :=
  c.isAlphanum || c == '+' || c == '-' || c == '_' || c == '.' || c == ':'

def readScalar (text : List Char) : Option (Value × List Char) := do
  let first := text.takeWhile isScalarPart
  let rest := text.dropWhile isScalarPart
  match afterDate? first, rest with
  | some [], ' ' :: c :: after =>
    if c.isDigit then
      let second := (c :: after).takeWhile isScalarPart
      let value ← scalar? (first ++ ' ' :: second)
      return (value, (c :: after).dropWhile isScalarPart)
    else return (← scalar? first, rest)
  | _, _ => return (← scalar? first, rest)

def isBareKeyPart (c : Char) : Bool :=
  c.isAlphanum || c == '_' || c == '-'

def readName (text : List Char) : Option (String × List Char) :=
  match text with
  | '"' :: rest => (readBasic 0 rest).map fun (name, after) => (String.ofList name, after)
  | '\'' :: rest => (readLiteral rest).map fun (name, after) => (String.ofList name, after)
  | _ =>
    let name := text.takeWhile isBareKeyPart
    if name.isEmpty then none else some (String.ofList name, text.dropWhile isBareKeyPart)

def depthLimit : Nat := 80

def readNames : (steps : Nat) → List Char → Option (List String × List Char)
  | 0, _ => none
  | steps + 1, text => do
    let (name, rest) ← readName (text.dropWhile isSpace)
    match rest.dropWhile isSpace with
    | '.' :: more =>
      let (names, after) ← readNames steps more
      return (name :: names, after)
    | after => return ([name], after)

def readKey (text : List Char) : Option (List String × List Char) :=
  readNames depthLimit text

end UiMarkup.Toml
