import UiMarkup.Component.Assembly

namespace UiMarkup.Assembly

def isImage (tag : String) : Bool :=
  Text.lower tag == "_image"

mutual

def pictures (vars : Variables) : Element → List String
  | ⟨tag, _, attributes, children⟩ =>
    let own := (Fields.value? (attributeFields vars attributes) "src").toList
    (if isImage tag then own else []) ++ picturesIn vars children

def picturesIn (vars : Variables) : List (Content Element) → List String
  | [] => []
  | .element element :: rest => pictures vars element ++ picturesIn vars rest
  | .text _ :: rest => picturesIn vars rest

end

end UiMarkup.Assembly
