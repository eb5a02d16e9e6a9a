import UiMarkup.Command.Failure
import UiMarkup.Text.Blank
import UiMarkup.Text.Cut

namespace UiMarkup.Overrides

/-- The variable and its value in an argument of the form `NAME=VALUE`. The name may be written with
blanks around it and with the signs that stand before variables in templates. -/
def ofArgument (argument : String) : Except Failure (String × String) :=
  match Text.cutAt? '=' argument.toList with
  | none => .error (.noAssignment argument)
  | some (left, value) =>
    let name := (Text.trim left).dropWhile (· == '@')
    if name = [] then .error (.noName argument)
    else .ok (String.ofList name, String.ofList value)

def merge (settings given : List (String × String)) : Fields String :=
  Fields.ofPairs (settings ++ given)

end UiMarkup.Overrides
