import UiMarkup.Text.Blank
import UiMarkup.Text.Cut

namespace UiMarkup.Path

def nameLimit : Nat := 255

def lengthLimit : Nat := 4095

def segments (path : String) : List String :=
  (Text.splitWhere (· == '/') path.toList).map String.ofList

def isAbsolute (path : String) : Bool :=
  path.toList.head? == some '/'

def isIdle (segment : String) : Bool :=
  segment == "" || segment == "."

def names (path : String) : List String :=
  (segments path).filter fun segment => !isIdle segment

def fileName? (path : String) : Option String :=
  match (names path).getLast? with
  | some name => if name = ".." then none else some name
  | none => none

/-- The last part of a path, if it can be the name of a file: no slash follows it, and it is not made
of dots alone. -/
def fileEntry? (path : String) : Option String :=
  match (segments path).getLast? with
  | some name => if isIdle name || name == ".." then none else some name
  | none => none

def extensionOf? (name : String) : Option String :=
  match Text.cutAt? '.' name.toList.reverse with
  | some (tail, head) => if head = [] then none else some (String.ofList tail.reverse)
  | none => none

def extension? (path : String) : Option String :=
  (fileName? path).bind extensionOf?

/-- Drops the last parts of a path that say nothing, and the slashes before them; the parts are
listed last first. -/
def trimIdle : List String → List String
  | [] => []
  | [segment] => [segment]
  | segment :: earlier => if isIdle segment then trimIdle earlier else segment :: earlier

def parent? (path : String) : Option String :=
  let given := trimIdle (segments path).reverse
  match given with
  | [] => none
  | [segment] => if segment = "" then none else some ""
  | _ :: earlier =>
    match trimIdle earlier with
    | [""] => some "/"
    | kept => some (String.intercalate "/" kept.reverse)

def join (directory path : String) : String :=
  if isAbsolute path || directory == "" then path
  else if directory.toList.getLast? == some '/' then directory ++ path
  else directory ++ "/" ++ path

def ofNames (names : List String) : String :=
  "/" ++ String.intercalate "/" names

end UiMarkup.Path
