import UiMarkup.Component.Defaults
import UiMarkup.Component.Registry
import UiMarkup.Error
import UiMarkup.Files.Path
import UiMarkup.Picture.Raster
import UiMarkup.Script.Aliases
import UiMarkup.Text.Capital

namespace UiMarkup

inductive Origin where
  | custom
  | qualified
  | intern
  | usual
  | named
deriving DecidableEq, Repr

/-- Whether the component takes care of the attributes itself, so that only `id` and `style` are
left to apply. -/
def Origin.ownsAttributes : Origin → Bool
  | custom | intern => true
  | qualified | usual | named => false

/-- What the meaning of an element depends on besides the document: the custom tags, the files, and
the directory from which relative paths are meant. -/
structure Surroundings where
  registry : Registry
  openFile : String → Picture.Opened
  directory : Option String

structure QualifiedTag where
  qualifier : Option String
  name : String

namespace QualifiedTag

def ofTag (tag : String) : QualifiedTag :=
  match Text.cutAt? '.' tag.toList with
  | some ('$' :: qualifier, c :: name) =>
    ⟨some (String.ofList ('$' :: qualifier)), String.ofList (c :: name)⟩
  | _ => ⟨none, tag⟩

def written (tag : QualifiedTag) : String :=
  match tag.qualifier with
  | some qualifier => qualifier ++ "." ++ tag.name
  | none => tag.name

end QualifiedTag

namespace Resolution

def picturePath (directory : Option String) (source : String) : String :=
  match directory with
  | some directory => Path.join directory source
  | none => source

def loadPicture (surroundings : Surroundings) (source : String) : Except ImageFault Picture :=
  match Text.afterStart? "data:".toList source.toList with
  | some address => Picture.ofAddress address
  | none =>
    let path := picturePath surroundings.directory source
    match Picture.ofFile (Path.extension? path) (surroundings.openFile path) with
    | .ok picture => .ok picture
    | .error fault => .error (.file path fault)

def image (surroundings : Surroundings) (attributes : Fields String) : Except Error Node :=
  let source := (Fields.value? attributes "src").getD ""
  let drawn : Except ImageFault Node := do
    if source = "" then
      throw .missingSource
    Raster.draw attributes (← loadPicture surroundings source)
  match drawn with
  | .ok node => .ok node
  | .error fault => .error (.image (Raster.shownSource source) fault)

def intern (surroundings : Surroundings) (name : String) (attributes : Fields String) :
    Warned Node :=
  if name = "image" then Warned.ofExcept (image surroundings attributes)
  else if name = "anchor" then
    match Fields.value? attributes "id" with
    | some id =>
      if id = "" then do
        Warned.warn .anchorWithoutId
        return .component "Group"
      else return .anchor id
    | none => do
      Warned.warn .anchorWithoutId
      return .component "Group"
  else return .component "Group"

def plain (name : String) (attributes : Fields String) : Except Error (Node × Origin) :=
  match Defaults.component? (Text.lower name) attributes with
  | some node => .ok (node, .usual)
  | none =>
    if isUnsupported name then .error (.tag name .noComponent)
    else if (name.toList.head?.map Text.isCapital).getD false then .ok (.textual name, .named)
    else .error (.tag name .unknownTag)

def resolve (surroundings : Surroundings) (aliases : Aliases) (tag : QualifiedTag)
    (attributes : Fields String) : Warned (Node × Origin) :=
  match surroundings.registry.factory? tag.written with
  | some factory => return (factory attributes, .custom)
  | none =>
    match tag.qualifier with
    | some qualifier =>
      match aliases.resolve? qualifier with
      | some known => return (.textual (known ++ ".@" ++ tag.name), .qualified)
      | none => Warned.fail (.tag tag.written (.undeclaredAlias qualifier))
    | none =>
      match tag.name.toList with
      | '_' :: name => do
        let node ← intern surroundings (Text.lower (String.ofList name)) attributes
        return (node, .intern)
      | _ => Warned.ofExcept (plain tag.name attributes)

end Resolution

end UiMarkup
