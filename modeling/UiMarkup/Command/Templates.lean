import UiMarkup.Command.Failure
import UiMarkup.Watcher

namespace UiMarkup.Templates

def hasExtension (extensions : List String) (path : String) : Bool :=
  match Path.extension? path with
  | some found => extensions.any fun extension => Text.sameLetters extension found
  | none => false

def below (directory : FileTree) (extensions : List String) : List (List String) :=
  (directory.files.filter fun place => hasExtension extensions (Path.ofNames place)).mergeSort
    Watcher.precedes

def find (disk : Disk) (target : String) (extensions : List String) : Except Failure (List String) :=
  match disk.find target with
  | .error _ => .error (.targetMissing target)
  | .ok (.file _) => .ok [target]
  | .ok directory =>
    .ok ((below directory extensions).map fun place =>
      Path.join target (String.intercalate "/" place))

end UiMarkup.Templates
