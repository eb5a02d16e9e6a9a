import UiMarkup.Component.Resolution
import UiMarkup.Component.Style
import UiMarkup.Markup.Document
import UiMarkup.Script.Evaluation

namespace UiMarkup.Assembly

/-- The property that an attribute name stands for: its parts between hyphens and underscores, each
with a capital. -/
def propertyName (name : String) : String :=
  let parts := Text.splitWhere (fun c => c == '-' || c == '_') name.toList
  String.ofList ((parts.filter fun part => !part.isEmpty).flatMap Text.capitalized)

def expanded (vars : Variables) (given : Attribute) : Option String :=
  if given.binding then given.value else given.value.map vars.substitute

def attributeFields (vars : Variables) (attributes : List Attribute) : Fields String :=
  Fields.ofPairs ((attributes.filter fun given => !given.binding).map fun given =>
    (Text.lower given.name, (expanded vars given).getD ""))

def isOn (value : Option String) : Bool :=
  match value with
  | some text => !Text.sameLetters text "false"
  | none => true

def applyPlain (node : Node) (name : String) (value : Option String) : Node :=
  let text := value.getD ""
  match name with
  | "class" | "type" => node
  | "text" => node.setText text
  | "src" => node.set "AssetPath" (.text text)
  | "placeholder" => node.set "PlaceholderText" (.text text)
  | "title" | "tooltip" => node.set "TooltipText" (.text text)
  | "disabled" => node.set "Disabled" (.flag (isOn value))
  | "checked" => node.set "Value" (.flag (isOn value))
  | "hidden" => node.set "Visible" (.flag (!isOn value))
  | "maxlength" => node.set "MaxLength" (.ofLiteral text)
  | _ =>
    node.set (propertyName name) (match value with
      | some v => .ofLiteral v
      | none => .flag true)

def applyAttribute (vars : Variables) (origin : Origin) (node : Node) (given : Attribute) :
    Except Error Node :=
  let value := expanded vars given
  let text := value.getD ""
  let name := Text.lower given.name
  if given.binding then .ok (node.set (propertyName given.name) (.expression text))
  else if name = "id" then .ok (node.setId text)
  else if name = "style" then do return node.setAll (← Style.parse text)
  else if origin.ownsAttributes then .ok node
  else .ok (applyPlain node name value)

def applyAttributes (vars : Variables) (origin : Origin) (node : Node) :
    List Attribute → Except Error Node
  | [] => .ok node
  | given :: rest => do
    let changed ← applyAttribute vars origin node given
    applyAttributes vars origin changed rest

def label (text : String) : Node :=
  (Node.textual "Label").setText text

def fill (node : Node) (children : List Node) (texts : List String) : Node :=
  let filled := { node with children := node.children ++ children }
  if texts.isEmpty then filled else filled.setText (String.intercalate " " texts)

mutual

def build (surroundings : Surroundings) (scope : Scope) : Element → Warned Node
  | ⟨tag, _, attributes, children⟩ => do
    let fields := attributeFields scope.vars attributes
    let (bare, origin) ← Resolution.resolve surroundings scope.aliases (.ofTag tag) fields
    let node ← Warned.ofExcept (applyAttributes scope.vars origin bare attributes)
    let (nodes, texts) ← buildContents surroundings scope node.textBearing children
    return fill node nodes texts

/-- The components inside an element, and the texts that the element's component bears itself. -/
def buildContents (surroundings : Surroundings) (scope : Scope) (textBearing : Bool) :
    List (Content Element) → Warned (List Node × List String)
  | [] => return ([], [])
  | .element element :: rest => do
    let node ← build surroundings scope element
    let (nodes, texts) ← buildContents surroundings scope textBearing rest
    return (node :: nodes, texts)
  | .text text :: rest => do
    let shown := scope.vars.substitute text
    let (nodes, texts) ← buildContents surroundings scope textBearing rest
    if textBearing then return (nodes, shown :: texts)
    else return (label shown :: nodes, texts)

end

def buildAll (surroundings : Surroundings) (scope : Scope) : List Element → Warned (List Node)
  | [] => return []
  | element :: rest => do
    let node ← build surroundings scope element
    return node :: (← buildAll surroundings scope rest)

end UiMarkup.Assembly
