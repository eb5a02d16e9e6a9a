import UiMarkup.Decimal.Natural
import UiMarkup.Files.Disk
import UiMarkup.Script.Variables
import UiMarkup.Settings.Toml.Reader
import UiMarkup.Text.Ascii

namespace UiMarkup

structure Config where
  vars : Fields String
  shutdownMilliseconds : Nat
  logFilter : Option String
  extensions : List String

inductive ConfigFault where
  | unreadable (path : String) (fault : FileFault)
  | malformed (path : String)
  | variableName (name : String)
  | noExtensions
deriving DecidableEq, Repr

def ConfigFault.message : ConfigFault → String
  | unreadable path fault => s!"failed to read `{path}`: " ++ fault.message
  | malformed path => s!"failed to parse `{path}`"
  | variableName name =>
    s!"Invalid variable name '{name}' in [variables]. Use letters, digits and underscores"
  | noExtensions => "[check] extensions must list at least one extension"

namespace Config

def default : Config :=
  ⟨[], 500, none, ["html", "cui"]⟩

def datetimeEntry : String := "$__toml_private_datetime"

/-- The entries of a table. A date or time counts as a table of one entry. -/
def entries? : Toml.Value → Option Toml.Table
  | .table _ entries | .inline entries => some entries
  | .datetime text => some [(datetimeEntry, .string text)]
  | _ => none

def string? : Toml.Value → Option String
  | .string text => some text
  | _ => none

def milliseconds? : Toml.Value → Option Nat
  | .integer n => if 0 ≤ n ∧ n ≤ 18446744073709551615 then some n.toNat else none
  | _ => none

def strings? : Toml.Value → Option (List String)
  | .array items => items.mapM string?
  | _ => none

def items? : Toml.Value → Option (List Toml.Value)
  | .array items => some items
  | .tables list => some (list.map fun entries => .table .opened entries)
  | _ => none

/-- Whether all numbers can be held in the entries that have none of the names. What such entries say
does not matter otherwise. -/
def othersFit (names : List String) (entries : Toml.Table) : Bool :=
  entries.all fun (name, value) => names.contains name || value.fits

/-- The value of the only field of a section: under its name in a table, or first in an array. Nothing
after the first item of an array matters. -/
def onlyField (section? : Option Toml.Value) (name : String) : Option (Option Toml.Value) :=
  match section? with
  | none => some none
  | some value =>
    match entries? value with
    | some entries => if othersFit [name] entries then some (Fields.value? entries name) else none
    | none => (items? value).map List.head?

def vars? (section? : Option Toml.Value) : Option (Fields String) :=
  match section? with
  | none => some []
  | some value => do
    (← entries? value).mapM fun (name, entry) => do return (name, ← string? entry)

def fieldOr {α : Type} (read? : Toml.Value → Option α) (otherwise : α) (field? : Option Toml.Value) :
    Option α :=
  match field? with
  | some value => read? value
  | none => some otherwise

def logFilter? (section? : Option Toml.Value) : Option (Option String) := do
  match section?, ← onlyField section? "filter" with
  | _, some value => some <$> string? value
  | some (.array _), none => none
  | _, none => return none

def ofTable (root : Toml.Table) : Option Config := do
  guard (othersFit ["variables", "watch", "logging", "check"] root)
  let timeout ← onlyField (Fields.value? root "watch") "shutdown_timeout_ms"
  let extensions ← onlyField (Fields.value? root "check") "extensions"
  return {
    vars := ← vars? (Fields.value? root "variables")
    shutdownMilliseconds := ← fieldOr milliseconds? default.shutdownMilliseconds timeout
    logFilter := ← logFilter? (Fields.value? root "logging")
    extensions := ← fieldOr strings? default.extensions extensions }

def normalExtension (extension : String) : String :=
  Text.lower (String.ofList (extension.toList.dropWhile (· == '.')))

def validate (config : Config) : Except ConfigFault Config :=
  let vars := config.vars.mergeSort fun a b => decide (a.1 ≤ b.1)
  match (Fields.keys vars).find? fun name => !isIdentifier name with
  | some name => .error (.variableName name)
  | none =>
    if config.extensions.isEmpty then .error .noExtensions
    else .ok { config with vars, extensions := config.extensions.map normalExtension }

def parse (path text : String) : Except ConfigFault Config :=
  match (Toml.parse text).bind ofTable with
  | some config => config.validate
  | none => .error (.malformed path)

/-- The settings in a file, of which the content or the failure to read it is given. A missing file
says nothing. -/
def ofFile (path : String) : Except FileFault String → Except ConfigFault Config
  | .ok text => parse path text
  | .error .missing => .ok default
  | .error fault => .error (.unreadable path fault)

end Config

end UiMarkup
