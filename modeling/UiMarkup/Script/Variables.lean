import UiMarkup.Error
import UiMarkup.Fields

namespace UiMarkup

def isIdentifierStart (c : Char) : Bool :=
  c.isAlpha || c == '_'

def isIdentifierPart (c : Char) : Bool :=
  c.isAlphanum || c == '_'

def isIdentifier (name : String) : Bool :=
  match name.toList with
  | [] => false
  | c :: rest => isIdentifierStart c && rest.all isIdentifierPart

abbrev Variables := Fields String

namespace Variables

def set (vars : Variables) (name value : String) : Except Error Variables :=
  if isIdentifier name then .ok (Fields.put vars name value) else .error (.variableName name)

/-- The variables after the pairs that precede the first one with an invalid name, and the error of
that one, if there is one. -/
def override (vars : Variables) : List (String × String) → Variables × Except Error Unit
  | [] => (vars, .ok ())
  | (name, value) :: rest =>
    match vars.set name value with
    | .ok later => override later rest
    | .error e => (vars, .error e)

def setAll (vars : Variables) (pairs : List (String × String)) : Except Error Variables :=
  match vars.override pairs with
  | (later, .ok ()) => .ok later
  | (_, .error e) => .error e

def referenced : List Char → List Char
  | [] => []
  | c :: rest => if isIdentifierStart c then c :: rest.takeWhile isIdentifierPart else []

def replacement (vars : Variables) (name : List Char) : List Char :=
  match Fields.value? vars (String.ofList name) with
  | some value => value.toList
  | none => '@' :: name

def substituteFrom (vars : Variables) : (skip : Nat) → (text : List Char) → List Char
  | _, [] => []
  | skip + 1, _ :: rest => substituteFrom vars skip rest
  | 0, c :: rest =>
    if c = '@' ∧ referenced rest ≠ [] then
      replacement vars (referenced rest)
        ++ substituteFrom vars (referenced rest).length rest
    else c :: substituteFrom vars 0 rest

def substitute (vars : Variables) (text : String) : String :=
  String.ofList (substituteFrom vars 0 text.toList)

theorem substituteFrom_eq (vars : Variables) (skip : Nat) (text : List Char) :
    substituteFrom vars skip text = substituteFrom vars 0 (text.drop skip) := by
  induction text generalizing skip with
  | nil => simp [substituteFrom]
  | cons c rest ih =>
    cases skip with
    | zero => rfl
    | succ skip => simpa [substituteFrom] using ih skip

end Variables

end UiMarkup
