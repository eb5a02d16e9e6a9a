import UiMarkup.Fault
import UiMarkup.Files.Path

namespace UiMarkup

/-- What programs ask of a file system: the working directory, whether there is something at a path,
and the place of it. Links are followed, so the names of the place may be others than those of the
path. -/
structure FileSystem where
  here : List String
  exists? : String → Bool
  canonical : String → Except FileFault (List String)

namespace FileSystem

/-- The absolute path by which a file is known, whatever it is called by: the path of its place, or
the path as written if there is no such file. -/
def knownAs (files : FileSystem) (path : String) : String :=
  match files.canonical path with
  | .ok place => Path.ofNames place
  | .error _ => Path.join (Path.ofNames files.here) path

def key (files : FileSystem) (path : String) : List String :=
  Path.names (files.knownAs path)

def hasPlace (files : FileSystem) (place : List String) : Bool :=
  files.exists? (Path.ofNames place)

def keyAt (files : FileSystem) (place : List String) : List String :=
  files.key (Path.ofNames place)

end FileSystem

end UiMarkup
