import UiMarkup.Command.Clock
import UiMarkup.Command.Failure
import UiMarkup.Command.Log

namespace UiMarkup

inductive Message where
  | version
  | usage
  | commands (rendered : String)
  | compiled (file output : String)
  | checked (count : Nat)
  | nothingToCheck (extensions : List String) (target : String)
  | faults (found : List (String × Error))
  | watching
  | firstBuildFailed (e : Error)
  | changed (file : String)
  | removed (file : String)
  | reappeared (file : String)
  | finished
  | buildFailed (e : Error)
  | leaving
  | warning (given : Warning)
  | failure (reason : Failure)
deriving DecidableEq, Repr

namespace Message

def isForErrors : Message → Bool
  | compiled .. | faults .. | firstBuildFailed .. | buildFailed .. | warning .. | failure .. => true
  | _ => false

def usageText : String :=
  "Compile HTML-like UI markup into UI command strings\n\n"
    ++ "Usage: customui [--config <CONFIG>] <COMMAND>\n\nCommands:\n"
    ++ "  compile <FILE> [--var <NAME=VALUE>]... [-o, --output <OUTPUT>]\n"
    ++ "  check [TARGET]\n"
    ++ "  watch <FILE> [--var <NAME=VALUE>]...\n"
    ++ "  help\n"

def faultLine (fault : String × Error) : String :=
  "  " ++ fault.1 ++ " " ++ fault.2.message ++ "\n"

def text (clock : Clock) : Message → String
  | version => "customui 0.1.0\n"
  | usage => usageText
  | commands rendered => rendered ++ "\n"
  | compiled file output => s!"   Compiled {file} -> {output} in {clock.elapsed}s\n"
  | checked count => s!"   Checked {count} file(s) in {clock.elapsed}s\n"
  | nothingToCheck extensions target =>
    "warning: no templates (" ++ String.intercalate ", " extensions ++ s!") found in {target}\n"
  | faults found =>
    s!"error: {found.length} error(s) found:\n\n" ++ String.join (found.map faultLine)
  | watching => "   Watching for changes...\n"
  | firstBuildFailed e =>
    "error: initial build failed: " ++ e.withCause
      ++ "\nWatching anyway (will retry on file changes)...\n"
  | changed file => s!"\nChange detected in {file}\n"
  | removed file => s!"warning: {file} was removed, waiting for it to come back\n"
  | reappeared file => s!"\n{file} reappeared\n"
  | finished => "   Finished\n"
  | buildFailed e => "error: build failed: " ++ e.withCause ++ "\n"
  | leaving => "\n   Exiting watch mode\n"
  | warning given => s!"[{clock.now} WARN  {Log.origin given}] " ++ given.message ++ "\n"
  | failure reason => "error: " ++ reason.message ++ "\n"

def output (clock : Clock) (messages : List Message) : String :=
  String.join ((messages.filter fun message => !message.isForErrors).map (text clock))

def errors (clock : Clock) (messages : List Message) : String :=
  String.join ((messages.filter isForErrors).map (text clock))

end Message

end UiMarkup
