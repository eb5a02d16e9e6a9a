import UiMarkup.Error
import UiMarkup.Text.Ascii
import UiMarkup.Text.Blank
import UiMarkup.Text.Cut

namespace UiMarkup.Log

inductive Level where
  | off
  | error
  | warn
  | info
  | debug
  | trace
deriving DecidableEq, Repr

def Level.ofName? (name : String) : Option Level :=
  match Text.lower name with
  | "off" => some .off
  | "error" => some .error
  | "warn" => some .warn
  | "info" => some .info
  | "debug" => some .debug
  | "trace" => some .trace
  | _ => none

def Level.showsWarnings : Level → Bool
  | off | error => false
  | warn | info | debug | trace => true

/-- A level for the modules whose name starts with `scope`; the empty scope is for all. -/
structure Rule where
  scope : String
  level : Level
deriving DecidableEq, Repr

abbrev Filter := List Rule

/-- The rule in one part of a filter's text: a level, a module, or both with an equals sign between
them. A module alone shows everything. -/
def Rule.ofText? (text : String) : Option Rule :=
  match (Text.splitWhere (· == '=') text.toList).map String.ofList with
  | [single] =>
    match Level.ofName? single with
    | some level => some ⟨"", level⟩
    | none => some ⟨single, .trace⟩
  | [scope, level] =>
    match String.ofList (Text.trim level.toList) with
    | "" => some ⟨scope, .trace⟩
    | name => (Level.ofName? name).map fun level => ⟨scope, level⟩
  | _ => none

def Filter.add (filter : Filter) (rule : Rule) : Filter :=
  filter.filter (fun earlier => earlier.scope ≠ rule.scope) ++ [rule]

/-- The filter in a text: rules with commas between them, up to a slash. Parts that are no rules do
not count. Without any rule only errors are shown. -/
def Filter.ofText (text : String) : Filter :=
  let rules := text.toList.takeWhile (· != '/')
  let parts := (Text.splitWhere (· == ',') rules).map fun part => String.ofList (Text.trim part)
  match (parts.filter (· ≠ "")).filterMap Rule.ofText? with
  | [] => [⟨"", .error⟩]
  | rules => rules.foldl Filter.add []

def Filter.choose (settings environment : Option String) : Filter :=
  match settings, environment with
  | some text, _ => .ofText text
  | none, some text => .ofText text
  | none, none => [⟨"", .info⟩]

def Filter.level (filter : Filter) (name : String) : Level :=
  let matching := filter.filter fun rule => rule.scope.toList.isPrefixOf name.toList
  let longest := matching.foldl (fun (best : Option Rule) rule =>
    match best with
    | some earlier => if rule.scope.length < earlier.scope.length then best else some rule
    | none => some rule) none
  (longest.map Rule.level).getD .off

def origin : Warning → String
  | .builtinAlias _ => "customui::compiler::aliases"
  | .anchorWithoutId => "customui::compiler::resolver"

def Filter.shown (filter : Filter) (warnings : List Warning) : List Warning :=
  warnings.filter fun warning => (filter.level (origin warning)).showsWarnings

end UiMarkup.Log
