import UiMarkup.Error
import UiMarkup.Files.System
import UiMarkup.Files.Tree
import UiMarkup.Picture.Source

namespace UiMarkup

/-- The files that a program meets, with the place of its working directory. There are no links. -/
structure Disk where
  tree : FileTree
  here : List String

namespace Disk

def emptyAt (here : List String) : Disk :=
  ⟨(FileTree.directory []).put (.directory []) here, here⟩

def absence (name : String) : FileFault :=
  if name.utf8ByteSize ≤ Path.nameLimit then .missing else .tooLong

def follow (disk : Disk) (place : List String) (segment : String) : Except FileFault (List String) :=
  match disk.tree.at? place with
  | some (.directory entries) =>
    if Path.isIdle segment then .ok place
    else if segment = ".." then .ok place.dropLast
    else if Fields.has entries segment then .ok (place ++ [segment])
    else .error (absence segment)
  | some (.file _) => .error .notDirectory
  | none => .error .missing

def start (disk : Disk) (path : String) : List String :=
  if Path.isAbsolute path then [] else disk.here

def checkText (path : String) : Except FileFault Unit :=
  if path.toList.contains '\x00' then .error .nul
  else if Path.lengthLimit < path.utf8ByteSize then .error .tooLong
  else if path = "" then .error .missing
  else .ok ()

def walk (disk : Disk) (path : String) (parts : List String) : Except FileFault (List String) :=
  parts.foldlM disk.follow (disk.start path)

def locate (disk : Disk) (path : String) : Except FileFault (List String) := do
  checkText path
  disk.walk path (Path.segments path)

def exists? (disk : Disk) (path : String) : Bool :=
  match disk.locate path with
  | .ok _ => true
  | .error _ => false

def find (disk : Disk) (path : String) : Except FileFault FileTree := do
  match disk.tree.at? (← disk.locate path) with
  | some entry => return entry
  | none => throw .missing

def isFile (disk : Disk) (path : String) : Bool :=
  match disk.find path with
  | .ok entry => entry.isFile
  | .error _ => false

def read (disk : Disk) (path : String) : Except FileFault (List UInt8) := do
  match ← disk.find path with
  | .file bytes => return bytes
  | .directory _ => throw .isDirectory

def textOf (bytes : List UInt8) : Except FileFault String :=
  match String.fromUTF8? ⟨bytes.toArray⟩ with
  | some text => .ok text
  | none => .error .notText

def readText (disk : Disk) (path : String) : Except FileFault String := do
  textOf (← disk.read path)

def readSource (disk : Disk) (path : String) : Except Error String :=
  match disk.readText path with
  | .ok text => .ok text
  | .error .missing => .error (.notFound path)
  | .error fault => .error (.unreadable path fault)

def openPicture (disk : Disk) (path : String) : Picture.Opened :=
  match disk.find path with
  | .ok (.file bytes) => .file bytes
  | .ok (.directory _) => .directory
  | .error fault => .failed fault

def canonical (disk : Disk) (path : String) : Except FileFault (List String) :=
  if path = "" then .error .missing else disk.walk path (Path.segments path)

def system (disk : Disk) : FileSystem :=
  ⟨disk.here, disk.exists?, disk.canonical⟩

def knownAs (disk : Disk) (path : String) : String :=
  disk.system.knownAs path

def key (disk : Disk) (path : String) : List String :=
  disk.system.key path

def prepare (disk : Disk) (path : String) : Disk × List String :=
  let walk := fun (state : Disk × List String) (segment : String) =>
    let (current, place) := state
    let made := match current.tree.at? place with
      | some _ => current
      | none => { current with tree := current.tree.put (.directory []) place }
    if Path.isIdle segment then (made, place)
    else if segment = ".." then (made, place.dropLast)
    else (made, place ++ [segment])
  (Path.segments path).foldl walk (disk, disk.start path)

def place (disk : Disk) (path : String) (entry : FileTree) : Disk :=
  let (prepared, target) := disk.prepare path
  { prepared with tree := prepared.tree.put entry target }

def makeDirectory (disk : Disk) (path : String) : Disk :=
  let (prepared, target) := disk.prepare path
  match prepared.tree.at? target with
  | some _ => prepared
  | none => { prepared with tree := prepared.tree.put (.directory []) target }

/-- The place of the file that is written under a path: an entry, old or new, of a directory that is
already there. A path that ends in dots or in a slash means a directory, whatever is there. -/
def target (disk : Disk) (path : String) : Except FileFault (List String) := do
  checkText path
  let parts := (Path.segments path).filter (· ≠ "")
  let above ← disk.walk path parts.dropLast
  match disk.tree.at? above with
  | none => throw .missing
  | some (.file _) => throw .notDirectory
  | some (.directory entries) =>
    match Path.fileEntry? path with
    | none => throw .isDirectory
    | some name =>
      match Fields.value? entries name with
      | some (.file _) => return above ++ [name]
      | some (.directory _) => throw .isDirectory
      | none => if absence name = .missing then return above ++ [name] else throw (absence name)

def write (disk : Disk) (path : String) (bytes : List UInt8) : Except FileFault Disk := do
  return { disk with tree := disk.tree.put (.file bytes) (← disk.target path) }

def remove (disk : Disk) (path : String) : Disk :=
  match disk.locate path with
  | .ok place => { disk with tree := disk.tree.remove place }
  | .error _ => disk

def rename (disk : Disk) (source target : String) : Disk :=
  match disk.find source with
  | .ok entry => (disk.remove source).place target entry
  | .error _ => disk

end Disk

end UiMarkup
