import UiMarkup.Files.Disk
import UiMarkup.Template
import UiMarkup.Watcher

namespace UiMarkup

structure Session where
  disk : Disk
  registry : Registry
  cache : Cache Template
  watcher : Watcher

namespace Session

def start (disk : Disk) : Session :=
  ⟨disk, .empty, .empty, .idle⟩

def surroundings (session : Session) (directory : Option String) : Surroundings :=
  ⟨session.registry, session.disk.openPicture, directory⟩

def compileText (session : Session) (overrides : Fields String) (source : String) : Warned Template :=
  Template.compile (session.surroundings none) overrides source

def compileFile (session : Session) (overrides : Fields String) (path : String) :
    Warned Template := do
  let source ← Warned.ofExcept (session.disk.readSource path)
  Template.compile (session.surroundings (Path.parent? path)) overrides source

/-- Compiles a file unless its template is cached, and caches the template. -/
def load (session : Session) (path : String) : Session × Warned Template :=
  let key := session.disk.key path
  match session.cache.get? key with
  | some template => (session, pure template)
  | none =>
    let epoch := session.cache.epoch key
    let compiled := session.compileFile [] path
    match compiled.result with
    | .error _ => (session, compiled)
    | .ok template =>
      ({ session with cache := (session.cache.putIfCurrent key epoch template).1 }, compiled)

def watch (session : Session) (path : String) : Session × Except Error Unit :=
  let (watcher, outcome) := session.watcher.watch session.disk.system path
  ({ session with watcher }, outcome)

def stopWatching (session : Session) (path : String) : Session × Bool :=
  let (watcher, stopped) := session.watcher.deregister (session.disk.key path)
  ({ session with watcher }, stopped)

def stopAll (session : Session) : Session :=
  { session with watcher := session.watcher.stop }

def isWatching (session : Session) (path : String) : Bool :=
  session.watcher.isWatching (session.disk.key path)

def subscribe (session : Session) : Session :=
  { session with watcher := session.watcher.subscribe }

def collect (session : Session) (index : Nat) : Session × List Invalidation :=
  let (watcher, taken) := session.watcher.collect index
  ({ session with watcher }, taken)

def notice (session : Session) (change : Change) : Session :=
  let (watcher, cache) := session.watcher.handle session.disk.system session.cache change
  { session with watcher, cache }

def writeFile (session : Session) (path : String) (bytes : List UInt8) : Session :=
  let changed := { session with disk := session.disk.place path (.file bytes) }
  changed.notice ⟨.modify, [changed.disk.key path]⟩

/-- The places of what is removed with the thing at a place: watched files in it, and itself. -/
def removedPlaces (session : Session) (place : List String) : List (List String) :=
  session.watcher.sortedFiles.filter (fun file => place.isPrefixOf file && file != place) ++ [place]

def removeFile (session : Session) (path : String) : Session :=
  match session.disk.locate path with
  | .error _ => session
  | .ok place =>
    let changed := { session with disk := session.disk.remove path }
    changed.notice ⟨.remove, session.removedPlaces place⟩

def renameFile (session : Session) (source target : String) : Session :=
  let old := session.disk.key source
  let changed := { session with disk := session.disk.rename source target }
  let left := changed.notice ⟨.modify, [old]⟩
  left.notice ⟨.modify, [left.disk.key target]⟩

def makeDirectory (session : Session) (path : String) : Session :=
  { session with disk := session.disk.makeDirectory path }

end Session

end UiMarkup
