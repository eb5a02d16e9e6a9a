import Std.Time.DateTime.Timestamp
import UiMarkup.Command.Run

namespace UiMarkup.Program

partial def capture (wanted : String → Bool) (path : String) : IO (Option FileTree) := do
  try
    let entries ← (← IO.FS.realPath path).readDir
    let captured ← entries.toList.filterMapM fun entry => do
      let below ← capture wanted (Path.join path entry.fileName)
      return below.map fun tree => (entry.fileName, tree)
    return some (.directory captured)
  catch _ =>
    try
      if !wanted path then return some (.file [])
      return some (.file (← IO.FS.readBinFile path).toList)
    catch _ => return none

def isDirectory (path : String) : IO Bool := do
  try (← IO.FS.realPath path).isDir catch _ => return false

/-- Puts what a path names into the tree, a directory without what is in it; if there is nothing, then
what leads there. -/
partial def fetch (disk : Disk) (path : String) : IO Disk := do
  if disk.exists? path then return disk
  if ← isDirectory path then return disk.makeDirectory path
  match ← capture (fun _ => true) path, Path.parent? path with
  | some entry, _ => return disk.place path entry
  | none, some above => if above = "" then return disk else fetch disk above
  | none, none => return disk

def fetchTemplate (overrides : Fields String) (disk : Disk) (file : String) : IO Disk := do
  let disk ← fetch disk file
  match disk.readText file with
  | .error _ => return disk
  | .ok source => (Template.picturePaths (Path.parent? file) overrides source).foldlM fetch disk

def fetchTarget (config : Config) (disk : Disk) (target : String) : IO Disk := do
  let wanted := fun path => path == target || Templates.hasExtension config.extensions path
  match ← capture wanted target with
  | none => return disk
  | some entry =>
    let disk := disk.place target entry
    match Templates.find disk target config.extensions with
    | .ok files => files.foldlM (fetchTemplate (Overrides.merge config.vars [])) disk
    | .error _ => return disk

def fetchFor (config : Config) (disk : Disk) : Command → IO Disk
  | .check target => fetchTarget config disk target
  | .watch file given => fetchTemplate (Overrides.merge config.vars given) disk file
  | .compile file given output => do
    let disk ← fetchTemplate (Overrides.merge config.vars given) disk file
    match output with
    | none => return disk
    | some path => fetch (← fetch disk ((Path.parent? path).getD "")) path

def tell (started : Nat) (messages : List Message) : IO Unit := do
  let seconds := (← Std.Time.Timestamp.now).toSecondsSinceUnixEpoch.val.toNat
  let elapsed := (← IO.monoMsNow) - started
  let clock : Clock := ⟨Clock.timeOf seconds, Clock.elapsedOf elapsed⟩
  IO.print (Message.output clock messages)
  (← IO.getStdout).flush
  IO.eprint (Message.errors clock messages)

def writeOutput (outcome : Outcome) : Command → IO Unit
  | .compile _ _ (some path) =>
    match outcome.failure, outcome.disk.read path with
    | none, .ok bytes => IO.FS.writeBinFile path ⟨bytes.toArray⟩
    | _, _ => return
  | _ => return

def pause : UInt32 := 200

partial def watchOn (started : Nat) (watch : Watch) : IO Unit := do
  IO.sleep pause
  let known := watch.session.disk.read watch.file
  let found ← capture (fun _ => true) watch.file
  let event : Option FileEvent := match known, found with
    | .ok old, some (.file new) => if old = new then none else some (.written watch.file new)
    | .error _, some (.file new) => some (.written watch.file new)
    | .ok _, _ => some (.removed watch.file)
    | .error _, _ => none
  match event with
  | none => watchOn started watch
  | some event =>
    let current ← fetchTemplate watch.overrides (.emptyAt watch.session.disk.here) watch.file
    let before := match watch.session.disk.find watch.file with
      | .ok entry => current.place watch.file entry
      | .error _ => current.remove watch.file
    let (watch, told) := { watch with session := { watch.session with disk := before } }.happen event
    tell started told
    watchOn started watch

def perform (settings : String) (command : Command) : IO UInt32 := do
  let started ← IO.monoMsNow
  let here := Path.names (← IO.currentDir).toString
  let disk ← fetch (.emptyAt here) settings
  let filter ← IO.getEnv "RUST_LOG"
  let finish (outcome : Outcome) : IO UInt32 := do
    tell started outcome.told
    return outcome.status.toUInt32
  match Setup.ofSettings disk filter settings with
  | .error failure => finish ⟨[], some failure, disk⟩
  | .ok setup =>
    let setup := { setup with disk := ← fetchFor setup.config disk command }
    match command with
    | .watch file given =>
      match (setup.watching file given).start with
      | (watch, told, some failure) => finish ⟨told, some failure, watch.session.disk⟩
      | (watch, told, none) => do
        tell started told
        watchOn started watch
        return 0
    | command =>
      let outcome := setup.run [] command
      try
        writeOutput outcome command
        finish outcome
      catch e =>
        IO.eprintln s!"error: {e}"
        return 1

def answer (arguments : List String) : IO UInt32 := do
  match Request.ofArguments? arguments with
  | some (.run settings command) => perform settings command
  | some request =>
    let outcome := request.perform (.emptyAt []) none []
    tell 0 outcome.told
    return outcome.status.toUInt32
  | none =>
    IO.eprint (Message.text ⟨"", ""⟩ .usage)
    return Request.misuseStatus.toUInt32

end UiMarkup.Program

def main (arguments : List String) : IO UInt32 :=
  UiMarkup.Program.answer arguments
