import UiMarkup.Command.Request
import UiMarkup.Command.Templates
import UiMarkup.Command.Watch

namespace UiMarkup

structure Outcome where
  messages : List Message
  failure : Option Failure
  disk : Disk

structure Setup where
  disk : Disk
  config : Config
  filter : Log.Filter

namespace Setup

/-- Reads the settings. The filter of the environment counts if the settings have none. -/
def ofSettings (disk : Disk) (environmentFilter : Option String) (settings : String) :
    Except Failure Setup :=
  match Config.ofFile settings (disk.readText settings) with
  | .ok config => .ok ⟨disk, config, .choose config.logFilter environmentFilter⟩
  | .error fault => .error (.settings fault)

def session (setup : Setup) : Session :=
  .start setup.disk

def overrides (setup : Setup) (given : List (String × String)) : Fields String :=
  Overrides.merge setup.config.vars given

def warnings (setup : Setup) {α : Type} (compiled : Warned α) : List Message :=
  (setup.filter.shown compiled.warnings).map Message.warning

def compile (setup : Setup) (file : String) (given : List (String × String))
    (output : Option String) : Outcome :=
  let compiled := setup.session.compileFile (setup.overrides given) file
  let told := setup.warnings compiled
  match compiled.result, output with
  | .error e, _ => ⟨told, some (.uncompiled file e), setup.disk⟩
  | .ok template, none => ⟨told ++ [.commands template.render], none, setup.disk⟩
  | .ok template, some path =>
    match setup.disk.write path (template.render ++ "\n").toUTF8.toList with
    | .ok disk => ⟨told ++ [.compiled file path], none, disk⟩
    | .error fault => ⟨told, some (.unwritten path fault), setup.disk⟩

def compileEach (setup : Setup) (files : List String) : List (String × Warned Template) :=
  files.map fun file => (file, setup.session.compileFile (setup.overrides []) file)

def faults (results : List (String × Warned Template)) : List (String × Error) :=
  results.filterMap fun (file, compiled) =>
    match compiled.result with
    | .ok _ => none
    | .error e => some (file, e)

def check (setup : Setup) (target : String) : Outcome :=
  match Templates.find setup.disk target setup.config.extensions with
  | .error failure => ⟨[], some failure, setup.disk⟩
  | .ok [] => ⟨[.nothingToCheck setup.config.extensions target], none, setup.disk⟩
  | .ok files =>
    let results := setup.compileEach files
    let told := results.flatMap fun (_, compiled) => setup.warnings compiled
    match faults results with
    | [] => ⟨told ++ [.checked files.length], none, setup.disk⟩
    | found => ⟨told ++ [.faults found], some (.checkFailed found.length), setup.disk⟩

def watching (setup : Setup) (file : String) (given : List (String × String)) : Watch :=
  ⟨setup.session, file, setup.overrides given, setup.filter⟩

def watch (setup : Setup) (file : String) (given : List (String × String))
    (events : List FileEvent) : Outcome :=
  match (setup.watching file given).start with
  | (watch, told, some failure) => ⟨told, some failure, watch.session.disk⟩
  | (watch, told, none) =>
    let (watch, later) := watch.happenAll events
    ⟨told ++ later ++ [.leaving], none, watch.session.disk⟩

def run (setup : Setup) (events : List FileEvent) : Command → Outcome
  | .compile file given output => setup.compile file given output
  | .check target => setup.check target
  | .watch file given => setup.watch file given events

end Setup

namespace Outcome

def told (outcome : Outcome) : List Message :=
  outcome.messages ++ (outcome.failure.map Message.failure).toList

def status (outcome : Outcome) : Nat :=
  if outcome.failure.isSome then 1 else 0

end Outcome

namespace Request

def misuseStatus : Nat := 2

def perform (disk : Disk) (environmentFilter : Option String) (events : List FileEvent) :
    Request → Outcome
  | .help => ⟨[.usage], none, disk⟩
  | .version => ⟨[.version], none, disk⟩
  | .run settings command =>
    match Setup.ofSettings disk environmentFilter settings with
    | .error failure => ⟨[], some failure, disk⟩
    | .ok setup => setup.run events command

end Request

end UiMarkup
