import UiMarkup.Decimal.Natural

namespace UiMarkup.Entity

def charOf? (code : Nat) : Option Char :=
  if code.isValidChar then some (Char.ofNat code) else none

def numeric? : List Char → Option Char
  | [] => none
  | c :: digits =>
    if c = 'x' ∨ c = 'X' then (Decimal.readNat? 16 Decimal.wordLimit digits).bind charOf?
    else (Decimal.readNat? 10 Decimal.wordLimit (c :: digits)).bind charOf?

def char? (name : List Char) : Option Char :=
  if name = ['a', 'm', 'p'] then some '&'
  else if name = ['l', 't'] then some '<'
  else if name = ['g', 't'] then some '>'
  else if name = ['q', 'u', 'o', 't'] then some '"'
  else if name = ['a', 'p', 'o', 's'] then some '\''
  else if name = ['n', 'b', 's', 'p'] then some '\u00a0'
  else
    match name with
    | '#' :: number => numeric? number
    | _ => none

/-- The character of the entity whose `&` has just been read, and its length up to the `;`. No name
has another `&` in it. -/
def after? (text : List Char) : Option (Char × Nat) :=
  let name := text.takeWhile fun c => c != ';' && c != '&'
  match text.drop name.length with
  | ';' :: _ => (char? name).map fun c => (c, name.length + 1)
  | _ => none

def decodeFrom : (skip : Nat) → (text : List Char) → List Char
  | _, [] => []
  | skip + 1, _ :: rest => decodeFrom skip rest
  | 0, c :: rest =>
    if c = '&' then
      match after? rest with
      | some (decoded, length) => decoded :: decodeFrom length rest
      | none => c :: decodeFrom 0 rest
    else c :: decodeFrom 0 rest

def decode (text : List Char) : List Char :=
  decodeFrom 0 text

theorem decodeFrom_eq (skip : Nat) (text : List Char) :
    decodeFrom skip text = decode (text.drop skip) := by
  induction text generalizing skip with
  | nil => simp [decode, decodeFrom]
  | cons c rest ih =>
    cases skip with
    | zero => rfl
    | succ skip => simpa [decodeFrom] using ih skip

end UiMarkup.Entity
