import UiMarkup.Fields

namespace UiMarkup.Toml

/-- How a table came about: passed through by a header, opened by one, or passed through by a dotted
key. -/
inductive TableKind where
  | passed
  | opened
  | dotted
deriving DecidableEq, Repr

/-- A value. Tables in braces and arrays in brackets are complete; other tables, and the tables that
are listed one by one, may still grow. Of a number with a point it is only known whether it has a
floating-point number near it. -/
inductive Value where
  | string (text : String)
  | integer (number : Int)
  | float (near : Bool)
  | boolean (truth : Bool)
  | datetime (text : String)
  | array (items : List Value)
  | inline (entries : List (String × Value))
  | table (kind : TableKind) (entries : List (String × Value))
  | tables (tables : List (List (String × Value)))

abbrev Table := List (String × Value)

mutual

/-- Whether all numbers in a value can be held: whole ones in 128 bits with or without a sign,
others as floating-point numbers. Documents with larger numbers are documents all the same. -/
def Value.fits : Value → Bool
  | .integer number =>
    decide (-170141183460469231731687303715884105728 ≤ number
      ∧ number ≤ 340282366920938463463374607431768211455)
  | .float near => near
  | .array items => allFit items
  | .inline entries => entriesFit entries
  | .table _ entries => entriesFit entries
  | .tables list => tablesFit list
  | .string _ | .boolean _ | .datetime _ => true

def allFit : List Value → Bool
  | [] => true
  | value :: rest => value.fits && allFit rest

def entriesFit : List (String × Value) → Bool
  | [] => true
  | (_, value) :: rest => value.fits && entriesFit rest

def tablesFit : List (List (String × Value)) → Bool
  | [] => true
  | entries :: rest => entriesFit entries && tablesFit rest

end

def changeLast (change : Table → Option Table) : List Table → Option (List Table)
  | [] => none
  | [last] => (change last).map fun changed => [changed]
  | table :: next :: rest => (changeLast change (next :: rest)).map fun changed => table :: changed

def changeAt (change : Table → Option Table) : (path : List String) → Table → Option Table
  | [], table => change table
  | name :: rest, table =>
    match Fields.value? table name with
    | none => do return Fields.put table name (.table .passed (← changeAt change rest []))
    | some (.table kind entries) => do
      return Fields.put table name (.table kind (← changeAt change rest entries))
    | some (.tables list) => do
      return Fields.put table name (.tables (← changeLast (changeAt change rest) list))
    | some _ => none

def openTable (name : String) (table : Table) : Option Table :=
  match Fields.value? table name with
  | none => some (Fields.put table name (.table .opened []))
  | some (.table .passed entries) => some (Fields.put table name (.table .opened entries))
  | some _ => none

def addTable (name : String) (table : Table) : Option Table :=
  match Fields.value? table name with
  | none => some (Fields.put table name (.tables [[]]))
  | some (.tables list) => some (Fields.put table name (.tables (list ++ [[]])))
  | some _ => none

/-- Gives a value to a dotted key. A table of headers on the way may be passed through to a table
below it, and does not receive the value itself. -/
def assign (value : Value) : (path : List String) → Table → Option Table
  | [], _ => none
  | [name], table => if Fields.has table name then none else some (Fields.put table name value)
  | name :: next :: rest, table =>
    match Fields.value? table name with
    | none => do return Fields.put table name (.table .dotted (← assign value (next :: rest) []))
    | some (.table .dotted entries) => do
      return Fields.put table name (.table .dotted (← assign value (next :: rest) entries))
    | some (.table .passed entries) => do
      if rest.isEmpty then none
      return Fields.put table name (.table .passed (← assign value (next :: rest) entries))
    | some (.tables list) => do
      if rest.isEmpty then none
      return Fields.put table name (.tables (← changeLast (assign value (next :: rest)) list))
    | some _ => none

end UiMarkup.Toml
