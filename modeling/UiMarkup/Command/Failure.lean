import UiMarkup.Error
import UiMarkup.Settings.Config

namespace UiMarkup

/-- What an error says where its cause is told after it: a file that cannot be read has the cause in
its message already, and tells it again. -/
def Error.withCause : Error → String
  | .unreadable path fault => (Error.unreadable path fault).message ++ ": " ++ fault.message
  | e => e.message

inductive Failure where
  | noAssignment (argument : String)
  | noName (argument : String)
  | settings (fault : ConfigFault)
  | targetMissing (target : String)
  | uncompiled (file : String) (e : Error)
  | unwritten (path : String) (fault : FileFault)
  | checkFailed (count : Nat)
  | unwatched (file : String) (e : Error)
deriving DecidableEq, Repr

def Failure.message : Failure → String
  | noAssignment argument => s!"expected NAME=VALUE, got '{argument}'"
  | noName argument => s!"variable name is empty in '{argument}'"
  | settings fault => fault.message
  | targetMissing target => s!"Path not found: {target}"
  | uncompiled file e => s!"failed to compile {file}: " ++ e.withCause
  | unwritten path fault => s!"failed to write {path}: " ++ fault.message
  | checkFailed count => s!"Check failed with {count} error(s)"
  | unwatched file e => s!"failed to watch {file}: " ++ e.withCause

end UiMarkup
