import UiMarkup.Component.Color
import UiMarkup.Component.Value
import UiMarkup.Error

namespace UiMarkup.Style

inductive Kind where
  | color
  | length
  | box
  | weight
  | switch (words : List (String × Bool))
  | choice (words : List (String × String))
  | name
  | factor

/-- What a style property sets: a property of the component, or a field of the object there. -/
structure Target where
  property : String
  field : Option String
  kind : Kind

def Target.whole (property : String) (kind : Kind) : Target :=
  ⟨property, none, kind⟩

def Target.part (property field : String) (kind : Kind) : Target :=
  ⟨property, some field, kind⟩

def targets : List (String × Target) := [
  ("color", .whole "Color" .color),
  ("background", .whole "Background" .color),
  ("background-color", .whole "Background" .color),
  ("width", .part "Anchor" "Width" .length),
  ("height", .part "Anchor" "Height" .length),
  ("top", .part "Anchor" "Top" .length),
  ("left", .part "Anchor" "Left" .length),
  ("right", .part "Anchor" "Right" .length),
  ("bottom", .part "Anchor" "Bottom" .length),
  ("margin", .whole "Anchor" .box),
  ("padding", .whole "Padding" .box),
  ("padding-left", .part "Padding" "Left" .length),
  ("padding-top", .part "Padding" "Top" .length),
  ("padding-right", .part "Padding" "Right" .length),
  ("padding-bottom", .part "Padding" "Bottom" .length),
  ("font-size", .part "Style" "FontSize" .length),
  ("font-weight", .part "Style" "RenderBold" .weight),
  ("font-style", .part "Style" "RenderItalic"
    (.switch [("italic", true), ("oblique", true), ("normal", false)])),
  ("font-family", .part "Style" "FontName" .name),
  ("text-transform", .part "Style" "RenderUppercase"
    (.switch [("uppercase", true), ("none", false)])),
  ("text-align", .part "Style" "HorizontalAlignment"
    (.choice [("left", "Start"), ("start", "Start"), ("center", "Center"), ("right", "End"),
      ("end", "End")])),
  ("vertical-align", .part "Style" "VerticalAlignment"
    (.choice [("top", "Start"), ("middle", "Center"), ("center", "Center"), ("bottom", "End")])),
  ("letter-spacing", .part "Style" "LetterSpacing" .length),
  ("white-space", .part "Style" "Wrap"
    (.switch [("nowrap", false), ("normal", true), ("pre-wrap", true)])),
  ("display", .whole "Visible"
    (.switch [("none", false), ("block", true), ("inline", true), ("inline-block", true),
      ("flex", true), ("inline-flex", true), ("grid", true), ("contents", true)])),
  ("visibility", .whole "Visible"
    (.switch [("visible", true), ("hidden", false), ("collapse", false)])),
  ("flex-direction", .whole "LayoutMode"
    (.choice [("row", "Left"), ("column", "Top"), ("row-reverse", "Right"),
      ("column-reverse", "Bottom")])),
  ("flex", .whole "FlexWeight" .factor),
  ("flex-grow", .whole "FlexWeight" .factor)]

def readLength (value : List Char) : Except StyleFault Value :=
  let given := Text.trim value
  let digits := (Text.beforeEnd? ['p', 'x'] given).getD given
  match Decimal.readFinite? (Text.trim digits) with
  | some x => .ok (.number x)
  | none => .error (.notLength (String.ofList given))

def sides (top right bottom left : Value) : Value :=
  .object [("Left", left), ("Top", top), ("Right", right), ("Bottom", bottom)]

/-- The box of one to four lengths: all sides; upright and across; top, across and bottom; or top,
right, bottom and left. -/
def boxOf : List Value → Except StyleFault Value
  | [all] => .ok (sides all all all all)
  | [upright, across] => .ok (sides upright across upright across)
  | [top, across, bottom] => .ok (sides top across bottom across)
  | [top, right, bottom, left] => .ok (sides top right bottom left)
  | lengths => .error (.boxCount lengths.length)

def readWeight (value : String) : Except StyleFault Value :=
  let word := Text.lower value
  if word = "bold" ∨ word = "bolder" then .ok (.flag true)
  else if word = "normal" ∨ word = "lighter" then .ok (.flag false)
  else
    match Decimal.readNat? 10 Decimal.wordLimit word.toList with
    | some weight => .ok (.flag (600 ≤ weight))
    | none => .error (.notWeight value)

def readWord {α : Type} (words : List (String × α)) (make : α → Value) (value : String) :
    Except StyleFault Value :=
  match words.find? fun (word, _) => Text.sameLetters word value with
  | some (_, meaning) => .ok (make meaning)
  | none => .error (.notKeyword (words.map Prod.fst) value)

def readFactor (value : String) : Except StyleFault Value :=
  let first := (Text.words value.toList).headD value.toList
  match Decimal.readFinite? first with
  | some x => .ok (.number x)
  | none => .error (.notNumber (String.ofList first))

def isQuote (c : Char) : Bool :=
  c == '"' || c == '\''

def Kind.read : Kind → String → Except StyleFault Value
  | color, value => Value.color <$> Color.read value
  | length, value => readLength value.toList
  | box, value => do boxOf (← (Text.words value.toList).mapM readLength)
  | weight, value => readWeight value
  | switch words, value => readWord words .flag value
  | choice words, value => readWord words .expression value
  | name, value => .ok (.text (String.ofList (Text.stripWhere isQuote value.toList)))
  | factor, value => readFactor value

def Target.assign (target : Target) (value : Value) : Properties :=
  match target.field with
  | none => [(target.property, value)]
  | some field => [(target.property, .object [(field, value)])]

def translate (property value : String) : Except Error Properties :=
  match targets.lookup property with
  | none => .error (.styleProperty property)
  | some target =>
    match target.kind.read value with
    | .ok v => .ok (target.assign v)
    | .error fault => .error (.styleValue property fault)

def withoutImportance (value : List Char) : List Char :=
  Text.trim ((Text.beforeEnd? "!important".toList value).getD value)

def readDeclaration (declaration : List Char) : Except Error Properties :=
  match Text.cutAt? ':' declaration with
  | none => .error (.styleValue (String.ofList declaration) .missingColon)
  | some (left, right) =>
    let property := String.ofList (Text.lowered (Text.trim left))
    let value := withoutImportance (Text.trim right)
    if value.isEmpty then .error (.styleValue property .missingValue)
    else translate property (String.ofList value)

def readDeclarations (properties : Properties) : List (List Char) → Except Error Properties
  | [] => .ok properties
  | segment :: rest =>
    let declaration := Text.trim segment
    if declaration.isEmpty then readDeclarations properties rest
    else do
      let added ← readDeclaration declaration
      readDeclarations (properties.merge added) rest

def parse (block : String) : Except Error Properties :=
  readDeclarations [] (Text.splitWhere (· == ';') block.toList)

end UiMarkup.Style
