import UiMarkup.Markup.Position
import UiMarkup.Text.Ascii

namespace UiMarkup

/-- An attribute as written. A binding is written with a colon before its name, which is not part of
the name; an attribute without `=` has no value. -/
structure Attribute where
  name : String
  value : Option String
  binding : Bool
deriving DecidableEq, Repr

inductive Content (ε : Type) where
  | element (element : ε)
  | text (text : String)
deriving DecidableEq, Repr

structure Element where
  tag : String
  position : Position
  attributes : List Attribute
  children : List (Content Element)
deriving Repr

structure ScriptBlock where
  content : String
  line : Nat
deriving DecidableEq, Repr

structure Document where
  script : Option ScriptBlock
  elements : List Element
deriving Repr

def Element.attribute? (element : Element) (name : String) : Option Attribute :=
  element.attributes.reverse.find? fun given =>
    !given.binding && Text.sameLetters given.name name

def voidTags : List String :=
  ["input", "img", "br", "hr", "meta", "link", "source"]

def isVoid (tag : String) : Bool :=
  voidTags.contains (Text.lower tag)

end UiMarkup
