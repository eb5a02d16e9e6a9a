import UiMarkup.Command.Overrides

namespace UiMarkup

inductive Command where
  | compile (file : String) (given : List (String × String)) (output : Option String)
  | check (target : String)
  | watch (file : String) (given : List (String × String))
deriving DecidableEq, Repr

inductive Request where
  | help
  | version
  | run (settings : String) (command : Command)
deriving DecidableEq, Repr

namespace Request

def usualSettings : String := "customui.toml"

inductive Argument where
  | plain (text : String)
  | option (name : String) (value : Option String)
  | ending
deriving DecidableEq, Repr

/-- A short option has its value right behind it, an equals sign between them or not; a long option
has it behind an equals sign. A dash alone is no option. -/
def Argument.ofText (text : String) : Argument :=
  match text.toList with
  | ['-', '-'] => .ending
  | '-' :: '-' :: _ =>
    match Text.cutAt? '=' text.toList with
    | some (name, value) => .option (String.ofList name) (some (String.ofList value))
    | none => .option text none
  | ['-', letter] => .option (String.ofList ['-', letter]) none
  | '-' :: letter :: '=' :: value => .option (String.ofList ['-', letter]) (some (String.ofList value))
  | '-' :: letter :: value => .option (String.ofList ['-', letter]) (some (String.ofList value))
  | _ => .plain text

/-- The value of an option that has none of its own is the next argument, if this one is plain. -/
def Argument.plain? (text : String) : Option String :=
  match Argument.ofText text with
  | .plain value => some value
  | _ => none

inductive Verb where
  | compile
  | check
  | watch
deriving DecidableEq, Repr

def Verb.ofName? : String → Option Verb
  | "compile" => some .compile
  | "check" => some .check
  | "watch" => some .watch
  | _ => none

inductive Stop where
  | help
  | version
  | misuse
deriving DecidableEq, Repr

inductive Slot where
  | settings
  | assignment
  | output
deriving DecidableEq, Repr

def Verb.slot? (verb : Verb) : String → Option Slot
  | "--config" => some .settings
  | "--var" => if verb = .check then none else some .assignment
  | "--output" | "-o" => if verb = .compile then some .output else none
  | _ => none

structure Given where
  verb : Verb
  file : Option String
  settings : Option String
  output : Option String
  assignments : List (String × String)

def once (earlier : Option String) (value : String) : Except Stop (Option String) :=
  if earlier.isSome || value = "" then .error .misuse else .ok (some value)

def Given.setFile (given : Given) (text : String) : Except Stop Given := do
  return { given with file := ← once given.file text }

def Given.fill (given : Given) (slot : Slot) (value : String) : Except Stop Given :=
  match slot with
  | .settings => do return { given with settings := ← once given.settings value }
  | .output => do return { given with output := ← once given.output value }
  | .assignment =>
    match Overrides.ofArgument value with
    | .ok assignment => .ok { given with assignments := given.assignments ++ [assignment] }
    | .error _ => .error .misuse

def asksHelp (name : String) (value : Option String) : Bool :=
  name == "-h" || (name == "--help" && value.isNone)

def asksVersion (name : String) (value : Option String) : Bool :=
  name == "-V" || (name == "--version" && value.isNone)

def Given.read (given : Given) : List String → Except Stop Given
  | [] => .ok given
  | text :: rest =>
    match Argument.ofText text with
    | .plain file => do (← given.setFile file).read rest
    | .ending => rest.foldlM Given.setFile given
    | .option name value =>
      if asksHelp name value then .error .help
      else
        match given.verb.slot? name, value with
        | none, _ => .error .misuse
        | some slot, some value => do (← given.fill slot value).read rest
        | some slot, none =>
          match rest with
          | [] => .error .misuse
          | next :: others =>
            match Argument.plain? next with
            | some value => do (← given.fill slot value).read others
            | none => .error .misuse

def Given.command (given : Given) : Except Stop Command :=
  match given.verb, given.file with
  | .compile, some file => .ok (.compile file given.assignments given.output)
  | .watch, some file => .ok (.watch file given.assignments)
  | .check, file => .ok (.check (file.getD "."))
  | _, none => .error .misuse

def ofCommand (settings : Option String) (verb : Verb) (rest : List String) : Except Stop Request := do
  let given ← Given.read ⟨verb, none, none, none, []⟩ rest
  return .run ((given.settings <|> settings).getD usualSettings) (← given.command)

def ofHelp : List String → Except Stop Request
  | [] => .error .help
  | [name] => if (Verb.ofName? name).isSome || name = "help" then .error .help else .error .misuse
  | _ => .error .misuse

def read (settings : Option String) : List String → Except Stop Request
  | [] => .error .misuse
  | text :: rest =>
    match Argument.ofText text with
    | .ending => .error .misuse
    | .plain name =>
      match Verb.ofName? name with
      | some verb => ofCommand settings verb rest
      | none => if name = "help" then ofHelp rest else .error .misuse
    | .option name value =>
      if asksHelp name value then .error .help
      else if asksVersion name value then .error .version
      else if name = "--config" then
        match value with
        | some value => do read (← once settings value) rest
        | none =>
          match rest with
          | [] => .error .misuse
          | next :: others =>
            match Argument.plain? next with
            | some value => do read (← once settings value) others
            | none => .error .misuse
      else .error .misuse

def ofArguments? (arguments : List String) : Option Request :=
  match read none arguments with
  | .ok request => some request
  | .error .help => some .help
  | .error .version => some .version
  | .error .misuse => none

end Request

end UiMarkup
