import UiMarkup.Component.Node
import UiMarkup.Text.Ascii

namespace UiMarkup

def unsupportedTags : List String := [
  "table", "thead", "tbody", "tfoot", "tr", "td", "th", "caption", "colgroup", "col",
  "form", "fieldset", "legend", "datalist", "output",
  "audio", "video", "source", "track", "canvas", "svg", "iframe", "object", "embed",
  "picture", "map", "area",
  "html", "head", "body", "title", "meta", "link", "style", "script", "base", "noscript",
  "template"]

def isUnsupported (tag : String) : Bool :=
  unsupportedTags.any fun unsupported => Text.sameLetters unsupported tag

namespace Defaults

def heading (size : Float) : Node :=
  (Node.textual "Label").set "Style" (.object [("FontSize", .number size), ("RenderBold", .flag true)])

def styledLabel (flag : String) : Node :=
  (Node.textual "Label").set "Style" (.object [(flag, .flag true)])

def input (attributes : Fields String) : Node :=
  match Text.lower ((Fields.value? attributes "type").getD "") with
  | "password" => (Node.component "TextField").set "PasswordChar" (.text "*")
  | "number" => .component "NumberField"
  | "color" => .component "ColorPicker"
  | "checkbox" => .textual "CheckBoxWithLabel"
  | _ => .component "TextField"

def component? (tag : String) (attributes : Fields String) : Option Node :=
  match tag with
  | "div" | "section" | "main" | "header" | "footer" | "nav" | "article" | "aside" | "li" | "br" =>
    some (.component "Group")
  | "ul" | "ol" => some ((Node.component "Group").set "LayoutMode" (.expression "Top"))
  | "p" | "span" | "label" | "small" => some (.textual "Label")
  | "h1" => some (heading 32.0)
  | "h2" => some (heading 28.0)
  | "h3" => some (heading 24.0)
  | "h4" => some (heading 20.0)
  | "h5" => some (heading 18.0)
  | "h6" => some (heading 16.0)
  | "b" | "strong" => some (styledLabel "RenderBold")
  | "i" | "em" => some (styledLabel "RenderItalic")
  | "button" | "a" => some (.textual "TextButton")
  | "input" => some (input attributes)
  | "textarea" => some (.component "MultilineTextField")
  | "img" => some (.component "AssetImage")
  | "select" => some (.component "DropdownBox")
  | "option" => some (.textual "DropdownEntry")
  | "progress" => some (.component "ProgressBar")
  | "hr" => some ((Node.component "Group").set "Anchor" (.object [("Height", .number 1.0)]))
  | _ => none

end Defaults

end UiMarkup
