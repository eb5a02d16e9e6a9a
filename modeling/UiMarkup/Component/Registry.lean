import UiMarkup.Component.Node
import UiMarkup.Text.Ascii
import UiMarkup.Text.Quoted

namespace UiMarkup

abbrev Factory := Fields String → Node

structure Registry where
  factories : Fields Factory

namespace Registry

def empty : Registry := ⟨[]⟩

def register (registry : Registry) (name : String) (factory : Factory) : Registry :=
  ⟨Fields.put registry.factories (Text.lower name) factory⟩

def factory? (registry : Registry) (name : String) : Option Factory :=
  Fields.value? registry.factories (Text.lower name)

def contains (registry : Registry) (name : String) : Bool :=
  (registry.factory? name).isSome

def unregister (registry : Registry) (name : String) : Registry × Bool :=
  (⟨Fields.without registry.factories (Text.lower name)⟩, registry.contains name)

def size (registry : Registry) : Nat :=
  registry.factories.length

def describe (registry : Registry) : String :=
  let names := (Fields.keys registry.factories).mergeSort fun a b => decide (a ≤ b)
  "CustomTagRegistry \x7b tags: [" ++ String.intercalate ", " (names.map Text.quoted) ++ "] \x7d"

end Registry

/-- A custom tag described by what its node has: a component name, or the tag's own name as an id;
properties; attributes that are copied to properties; and, if asked for, a property that lists all
attributes. -/
structure TagRecipe where
  name : String
  component : Option String
  textBearing : Bool
  properties : List (String × Value)
  copied : List (String × String)
  listsAttributes : Bool

namespace TagRecipe

def listed (attributes : Fields String) : String :=
  String.intercalate "|" (attributes.map fun (name, value) => name ++ "=" ++ value)

def make (recipe : TagRecipe) (attributes : Fields String) : Node :=
  let bare := match recipe.component with
    | some name => if recipe.textBearing then Node.textual name else Node.component name
    | none => Node.anchor recipe.name
  let dressed := recipe.properties.foldl (fun node (key, value) => node.set key value) bare
  let filled := recipe.copied.foldl (fun node (source, key) =>
    match Fields.value? attributes source with
    | some value => node.set key (.text value)
    | none => node) dressed
  if recipe.listsAttributes then filled.set "Attrs" (.text (listed attributes)) else filled

end TagRecipe

end UiMarkup
