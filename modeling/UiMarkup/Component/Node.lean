import UiMarkup.Component.Value
import UiMarkup.Text.Cut

namespace UiMarkup

/-- A component with its properties and children. A component without a name only marks a place for
the runtime; a component that bears text shows the text inside its element as its own. -/
structure Node where
  name : Option String
  id : Option String
  properties : List (String × Value)
  children : List Node
  textBearing : Bool

namespace Node

def component (name : String) : Node :=
  ⟨some name, none, [], [], false⟩

def textual (name : String) : Node :=
  ⟨some name, none, [], [], true⟩

def anchor (id : String) : Node :=
  ⟨none, some id, [], [], false⟩

def isAnchor (node : Node) : Bool :=
  node.name.isNone

def setId (node : Node) (id : String) : Node :=
  { node with id := some id }

def set (node : Node) (key : String) (value : Value) : Node :=
  { node with properties := Fields.put node.properties key value }

def setAll (node : Node) (properties : Properties) : Node :=
  { node with properties := Properties.merge node.properties properties }

def add (node : Node) (child : Node) : Node :=
  { node with children := node.children ++ [child] }

def property? (node : Node) (key : String) : Option Value :=
  Fields.value? node.properties key

def textKey? (text : String) : Option String :=
  match text.toList with
  | '%' :: c :: rest => some (String.ofList (c :: rest))
  | _ => none

/-- Sets what the node shows: a text, or the key of one. The other of the two is removed. -/
def setText (node : Node) (text : String) : Node :=
  match textKey? text with
  | some key =>
    { node with properties := Fields.put (Fields.without node.properties "Text") "TextKey" (.text key) }
  | none =>
    { node with properties := Fields.put (Fields.without node.properties "TextKey") "Text" (.text text) }

def heading : (name id : Option String) → String
  | some name, some id => name ++ " #" ++ id
  | some name, none => name
  | none, some id => "#" ++ id
  | none, none => "#"

mutual

def render : Node → String
  | ⟨name, id, properties, children, _⟩ =>
    heading name id ++ " \x7b" ++ Properties.render properties ++ renderAll children ++ " \x7d"

def renderAll : List Node → String
  | [] => ""
  | node :: rest => " " ++ node.render ++ renderAll rest

end

mutual

def same : Node → Node → Bool
  | ⟨name, id, properties, children, textBearing⟩, other =>
    name == other.name && id == other.id && textBearing == other.textBearing
      && Properties.same properties other.properties && sameAll children other.children

def sameAll : List Node → List Node → Bool
  | [], [] => true
  | node :: rest, other :: others => same node other && sameAll rest others
  | _, _ => false

end

end Node

end UiMarkup
