import UiMarkup.Decimal.Real
import UiMarkup.Script.Aliases
import UiMarkup.Script.Variables
import UiMarkup.Text.Blank
import UiMarkup.Text.Cut

namespace UiMarkup

structure Scope where
  vars : Variables
  aliases : Aliases

def Scope.empty : Scope := ⟨[], .empty⟩

namespace Script

/-- The value of a declaration: a text in quotes, or a number or truth value as it is written. -/
inductive Literal where
  | quoted (text : String)
  | bare (text : String)
deriving DecidableEq, Repr

def readBare (line : Nat) (value : List Char) : Except Error Literal :=
  let bare := Text.trim ((Text.beforeEnd? [';'] value).getD value)
  if bare = "true".toList ∨ bare = "false".toList ∨ (Decimal.readFinite? bare).isSome then
    .ok (.bare (String.ofList bare))
  else
    match bare with
    | '\'' :: _ => .error (.script line .singleQuotes)
    | _ => .error (.script line (.notLiteral (String.ofList bare)))

def readLiteral (line : Nat) (value : List Char) : Except Error Literal :=
  match value with
  | '"' :: body =>
    match Quoted.read? body with
    | none => .error (.unterminatedLiteral line)
    | some (text, after) =>
      let rest := Text.trim after
      if rest = [] ∨ rest = [';'] then .ok (.quoted (String.ofList text))
      else .error (.script line (.trailing (String.ofList rest)))
  | _ => readBare line value

def declareVariable (scope : Scope) (line : Nat) (name value : List Char) : Except Error Scope := do
  let name := String.ofList name
  unless isIdentifier name do
    throw (.variableName name)
  let text := match ← readLiteral line value with
    | .quoted text => scope.vars.substitute text
    | .bare text => text
  return { scope with vars := ← scope.vars.set name text }

def declareAlias (scope : Scope) (line : Nat) (target name value : List Char) : Warned Scope := do
  let target := String.ofList target
  unless isIdentifier (String.ofList name) do
    Warned.fail (.script line (.invalidAlias target))
  match ← readLiteral line value with
  | .quoted path => return { scope with aliases := (← scope.aliases.declare target path).1 }
  | .bare _ => Warned.fail (.script line (.unquotedPath target))

def evaluateLine (scope : Scope) (number : Nat) (raw : List Char) : Warned Scope :=
  let line := Text.trim raw
  if line = [] ∨ (Text.afterStart? ['/', '/'] line).isSome then return scope
  else
    match Text.cutAt? '=' line with
    | none => Warned.fail (.script number (.notDeclaration (String.ofList line)))
    | some (left, right) =>
      let target := Text.trim left
      let value := Text.trim right
      match target with
      | '@' :: name => Warned.ofExcept (declareVariable scope number name value)
      | '$' :: name => declareAlias scope number target name value
      | _ => Warned.fail (.script number (.invalidTarget (String.ofList target)))

def evaluateLines (scope : Scope) (number : Nat) : List (List Char) → Warned Scope
  | [] => return scope
  | line :: rest => do
    let later ← evaluateLine scope number line
    evaluateLines later (number + 1) rest

def lines (content : String) : List (List Char) :=
  Text.splitWhere (· == '\n') content.toList

def evaluate (content : String) (firstLine : Nat) : Warned Scope :=
  evaluateLines .empty firstLine (lines content)

end Script

end UiMarkup
