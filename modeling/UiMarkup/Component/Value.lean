import UiMarkup.Component.Quoted
import UiMarkup.Decimal.Real
import UiMarkup.Decimal.Shortest
import UiMarkup.Fields
import UiMarkup.Text.Blank

namespace UiMarkup

/-- The value of a property. Colours and expressions are written as they are; an object has fields
of its own. -/
inductive Value where
  | text (text : String)
  | number (number : Float)
  | flag (flag : Bool)
  | color (color : String)
  | expression (expression : String)
  | object (fields : List (String × Value))

abbrev Properties := Fields Value

namespace Value

def ofLiteral (raw : String) : Value :=
  if raw = "true" then flag true
  else if raw = "false" then flag false
  else
    match Decimal.readFinite? raw.toList with
    | some x => number x
    | none => text raw

def ofFlag (set : Bool) : String :=
  if set then "true" else "false"

mutual

def render : Value → String
  | text t => Quoted.quote t
  | number x => Decimal.shortest x
  | flag set => ofFlag set
  | color c => c
  | expression e => e
  | object fields => "(" ++ renderFields fields ++ ")"

def renderFields : List (String × Value) → String
  | [] => ""
  | [(key, value)] => key ++ ": " ++ value.render
  | (key, value) :: next :: rest => key ++ ": " ++ value.render ++ ", " ++ renderFields (next :: rest)

end

mutual

/-- What a property holds after `incoming` is given for it: objects are merged, anything else
replaces what was there. -/
def onto (incoming : Value) (present : Option Value) : Value :=
  match incoming with
  | object fields =>
    match present with
    | some (object existing) => object (mergeFields existing fields)
    | _ => object fields
  | other => other

def mergeFields (target : List (String × Value)) : List (String × Value) → List (String × Value)
  | [] => target
  | (key, value) :: rest =>
    mergeFields (Fields.put target key (onto value (Fields.value? target key))) rest

end

mutual

def same : Value → Value → Bool
  | text a, text b => a == b
  | number a, number b => a == b
  | flag a, flag b => a == b
  | color a, color b => a == b
  | expression a, expression b => a == b
  | object a, object b => a.length == b.length && sameFields a b
  | _, _ => false

def sameFields : List (String × Value) → List (String × Value) → Bool
  | [], _ => true
  | (key, value) :: rest, others =>
    (match Fields.value? others key with
    | some other => same value other
    | none => false) && sameFields rest others

end

end Value

namespace Properties

def merge (target incoming : Properties) : Properties :=
  Value.mergeFields target incoming

def render : Properties → String
  | [] => ""
  | (key, value) :: rest => " " ++ key ++ ": " ++ value.render ++ ";" ++ render rest

def same (left right : Properties) : Bool :=
  left.length == right.length && Value.sameFields left right

end Properties

end UiMarkup
