import UiMarkup.Component.Pictures
import UiMarkup.Markup.Reader

namespace UiMarkup

structure Template where
  roots : List Node
  vars : Variables
  aliases : Aliases

namespace Template

def commands (template : Template) : List String :=
  template.roots.map Node.render

def render (template : Template) : String :=
  let preamble := template.aliases.preamble
  let lines := if preamble = "" then template.commands else preamble :: template.commands
  String.intercalate "\n" lines

/-- Records a value for a variable. The components stay as they were compiled. -/
def setVariable (template : Template) (name value : String) : Except Error Template := do
  return { template with vars := ← template.vars.set name value }

def sameTexts (left right : Fields String) : Bool :=
  left.length == right.length && left.all fun (name, value) => Fields.value? right name == some value

def same (left right : Template) : Bool :=
  Node.sameAll left.roots right.roots && sameTexts left.vars right.vars
    && sameTexts left.aliases.declared right.aliases.declared

def sortedPairs (pairs : List (String × String)) : List (String × String) :=
  pairs.mergeSort fun a b => decide (a.1 < b.1) || (a.1 == b.1 && decide (a.2 ≤ b.2))

def scopeOf (document : Document) : Warned Scope :=
  match document.script with
  | some script => Script.evaluate script.content script.line
  | none => return .empty

def scopeWith (overrides : Fields String) (document : Document) : Warned Scope := do
  let declared ← scopeOf document
  let vars ← Warned.ofExcept (declared.vars.setAll (sortedPairs overrides))
  return { declared with vars }

def compile (surroundings : Surroundings) (overrides : Fields String) (source : String) :
    Warned Template := do
  let document ← Warned.ofExcept (Document.parse source)
  let scope ← scopeWith overrides document
  let roots ← Assembly.buildAll surroundings scope document.elements
  return ⟨roots, scope.vars, scope.aliases⟩

/-- The paths of the pictures that a source text in the given directory refers to. Texts that do not
compile up to their components refer to none. -/
def picturePaths (directory : Option String) (overrides : Fields String) (source : String) :
    List String :=
  let read : Warned (List String) := do
    let document ← Warned.ofExcept (Document.parse source)
    let scope ← scopeWith overrides document
    return document.elements.flatMap (Assembly.pictures scope.vars)
  match read.result with
  | .ok sources => sources.map (Resolution.picturePath directory)
  | .error _ => []

end Template

end UiMarkup
