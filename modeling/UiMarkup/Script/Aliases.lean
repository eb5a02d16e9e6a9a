import UiMarkup.Component.Quoted
import UiMarkup.Error
import UiMarkup.Fields
import UiMarkup.Text.Ascii

namespace UiMarkup

def builtinAliases : List String :=
  ["$C", "$Common"]

def isBuiltinAlias (name : String) : Bool :=
  builtinAliases.any fun builtin => Text.sameLetters builtin name

structure Aliases where
  declared : Fields String

namespace Aliases

def empty : Aliases := ⟨[]⟩

/-- Declares an alias; tells whether it did. Declaring one that is always there only warns. -/
def declare (aliases : Aliases) (name path : String) : Warned (Aliases × Bool) :=
  if isBuiltinAlias name then do
    Warned.warn (.builtinAlias name)
    return (aliases, false)
  else return (⟨Fields.put aliases.declared name path⟩, true)

def resolve? (aliases : Aliases) (name : String) : Option String :=
  match builtinAliases.find? fun builtin => Text.sameLetters builtin name with
  | some builtin => some builtin
  | none => (Fields.keys aliases.declared).find? fun declared => Text.sameLetters declared name

def path? (aliases : Aliases) (name : String) : Option String :=
  Fields.value? aliases.declared name

def declaration : String × String → String
  | (name, path) => name ++ " = " ++ Quoted.quote path ++ ";"

def preamble (aliases : Aliases) : String :=
  String.intercalate " " (aliases.declared.map declaration)

end Aliases

end UiMarkup
