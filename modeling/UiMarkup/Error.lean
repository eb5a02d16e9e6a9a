import UiMarkup.Fault
import UiMarkup.Markup.Position

namespace UiMarkup

inductive Error where
  | markup (position : Position) (fault : MarkupFault)
  | script (line : Nat) (fault : ScriptFault)
  | unterminatedLiteral (line : Nat)
  | tag (name : String) (fault : TagFault)
  | styleProperty (property : String)
  | styleValue (property : String) (fault : StyleFault)
  | variableName (name : String)
  | notFound (path : String)
  | unreadable (path : String) (fault : FileFault)
  | image (source : String) (fault : ImageFault)
deriving DecidableEq, Repr

def Error.message : Error → String
  | markup position fault => s!"[Line {position.line}:{position.column}] " ++ fault.message
  | script line fault => s!"[Script line {line}] " ++ fault.message
  | unterminatedLiteral line => s!"[Script line {line}] unterminated string literal"
  | tag name fault => s!"unsupported tag <{name}>: " ++ fault.message
  | styleProperty property => s!"unsupported style property '{property}'"
  | styleValue property fault =>
    s!"invalid value for style property '{property}': " ++ fault.message
  | variableName name =>
    s!"invalid variable name '{name}' (expected letters, digits and underscores)"
  | notFound path => s!"file not found: {path}"
  | unreadable path fault => s!"failed to read {path}: " ++ fault.message
  | image source fault => s!"failed to rasterize image '{source}': " ++ fault.message

inductive Warning where
  | builtinAlias (aliasName : String)
  | anchorWithoutId
deriving DecidableEq, Repr

def Warning.message : Warning → String
  | builtinAlias aliasName => s!"ignoring redeclaration of built-in alias {aliasName}"
  | anchorWithoutId => "<_anchor> without an id, emitting a plain Group"

structure Warned (α : Type u) where
  warnings : List Warning
  result : Except Error α

namespace Warned

instance : Monad Warned where
  pure a := ⟨[], .ok a⟩
  bind first next :=
    match first.result with
    | .error e => ⟨first.warnings, .error e⟩
    | .ok a => ⟨first.warnings ++ (next a).warnings, (next a).result⟩

def ofExcept (result : Except Error α) : Warned α :=
  ⟨[], result⟩

def fail (e : Error) : Warned α :=
  ⟨[], .error e⟩

def warn (warning : Warning) : Warned Unit :=
  ⟨[warning], .ok ()⟩

instance : MonadLift (Except Error) Warned where
  monadLift := ofExcept

@[simp] theorem result_pure (a : α) : (pure a : Warned α).result = .ok a := rfl

@[simp] theorem result_fail (e : Error) : (fail e : Warned α).result = .error e := rfl

@[simp] theorem result_ofExcept (result : Except Error α) : (ofExcept result).result = result := rfl

@[simp] theorem result_bind (first : Warned α) (next : α → Warned β) :
    (first >>= next).result = first.result >>= fun a => (next a).result := by
  simp only [Bind.bind, Except.bind]
  split <;> simp_all

end Warned

end UiMarkup
