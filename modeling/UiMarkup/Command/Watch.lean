import UiMarkup.Command.Message
import UiMarkup.Session

namespace UiMarkup

inductive FileEvent where
  | written (path : String) (bytes : List UInt8)
  | removed (path : String)

structure Watch where
  session : Session
  file : String
  overrides : Fields String
  filter : Log.Filter

namespace Watch

/-- Compiles the file. Without overrides the template is cached. -/
def compile (watch : Watch) : Watch × Warned Template :=
  if watch.overrides.isEmpty then
    let (session, compiled) := watch.session.load watch.file
    ({ watch with session }, compiled)
  else (watch, watch.session.compileFile watch.overrides watch.file)

def build (watch : Watch) (success : Message) (failed : Error → Message) : Watch × List Message :=
  let (watch, compiled) := watch.compile
  let warnings := (watch.filter.shown compiled.warnings).map Message.warning
  let told := match compiled.result with
    | .ok template => [.commands template.render, success]
    | .error e => [failed e]
  (watch, warnings ++ told)

/-- Subscribes to invalidations, builds the file for the first time and starts to watch it, if it is
there. -/
def start (watch : Watch) : Watch × List Message × Option Failure :=
  let (watch, told) := { watch with session := watch.session.subscribe }.build .watching .firstBuildFailed
  match watch.session.watch watch.file with
  | (session, .ok ()) => ({ watch with session }, told, none)
  | (session, .error e) => ({ watch with session }, told, some (.unwatched watch.file e))

def rebuild (watch : Watch) : Watch × List Message :=
  watch.build .finished .buildFailed

def react (watch : Watch) : Invalidation → Watch × List Message
  | .modified _ =>
    let (watch, told) := watch.rebuild
    (watch, .changed watch.file :: told)
  | .removed _ => (watch, [.removed watch.file])

def reactAll (watch : Watch) : List Invalidation → Watch × List Message
  | [] => (watch, [])
  | invalidation :: rest =>
    let (watch, first) := watch.react invalidation
    let (watch, others) := watch.reactAll rest
    (watch, first ++ others)

def resume (watch : Watch) : Watch × List Message :=
  if watch.session.disk.exists? watch.file && !watch.session.isWatching watch.file then
    match watch.session.watch watch.file with
    | (session, .ok ()) =>
      let (watch, told) := { watch with session }.rebuild
      (watch, .reappeared watch.file :: told)
    | (session, .error _) => ({ watch with session }, [])
  else (watch, [])

def happen (watch : Watch) (event : FileEvent) : Watch × List Message :=
  let changed := match event with
    | .written path bytes => watch.session.writeFile path bytes
    | .removed path => watch.session.removeFile path
  let (session, invalidations) := changed.collect 0
  let (watch, told) := { watch with session }.reactAll invalidations
  let (watch, later) := watch.resume
  (watch, told ++ later)

def happenAll (watch : Watch) : List FileEvent → Watch × List Message
  | [] => (watch, [])
  | event :: rest =>
    let (watch, first) := watch.happen event
    let (watch, others) := watch.happenAll rest
    (watch, first ++ others)

end Watch

end UiMarkup
