import UiMarkup.Fields

namespace UiMarkup

/-- A file with its bytes, or a directory with what is in it by name. An entry is never a link to
another one. -/
inductive FileTree where
  | file (bytes : List UInt8)
  | directory (entries : List (String × FileTree))

namespace FileTree

def isFile : FileTree → Bool
  | file _ => true
  | directory _ => false

def entries : FileTree → List (String × FileTree)
  | file _ => []
  | directory entries => entries

def at? (tree : FileTree) : (place : List String) → Option FileTree
  | [] => some tree
  | name :: rest => (Fields.value? tree.entries name).bind fun entry => entry.at? rest

def put (tree : FileTree) (new : FileTree) : (place : List String) → FileTree
  | [] => new
  | name :: rest =>
    let entry := (Fields.value? tree.entries name).getD (directory [])
    directory (Fields.put tree.entries name (entry.put new rest))

def remove (tree : FileTree) : (place : List String) → FileTree
  | [] => tree
  | [name] => directory (Fields.without tree.entries name)
  | name :: next :: rest =>
    match Fields.value? tree.entries name with
    | some entry => directory (Fields.put tree.entries name (entry.remove (next :: rest)))
    | none => tree

mutual

def filesFrom (place : List String) : FileTree → List (List String)
  | file _ => [place]
  | directory entries => filesIn place entries

def filesIn (place : List String) : List (String × FileTree) → List (List String)
  | [] => []
  | (name, entry) :: rest => filesFrom (place ++ [name]) entry ++ filesIn place rest

end

def files (tree : FileTree) : List (List String) :=
  tree.filesFrom []

end FileTree

end UiMarkup
