import UiMarkup.Error
import UiMarkup.Markup.Cursor
import UiMarkup.Markup.Document
import UiMarkup.Markup.Entity
import UiMarkup.Text.Alphanumeric
import UiMarkup.Text.Cut

namespace UiMarkup.Reader

open Text (isBlank)

def depthLimit : Nat := 256

def scriptKind : String := "text/customui"

def failAt {α : Type} (cursor : Cursor) (fault : MarkupFault) : Except Error α :=
  .error (.markup cursor.position fault)

def isNameStart (c : Char) : Bool :=
  Text.isAlphanumeric c || c == '_' || c == '$'

def isNamePart (c : Char) : Bool :=
  isNameStart c || c == '-' || c == '.' || c == ':'

def isAttributePart (c : Char) : Bool :=
  !(isBlank c || c == '=' || c == '>' || c == '/' || c == '"' || c == '\'' || c == '<')

def expect (wanted : Char) (cursor : Cursor) : Except Error Cursor :=
  match cursor.rest with
  | [] => failAt cursor (.expected wanted none)
  | found :: _ =>
    if found = wanted then .ok (cursor.skip 1)
    else failAt cursor (.expected wanted (some found))

def readName (cursor : Cursor) : Except Error (String × Cursor) :=
  match cursor.rest with
  | [] => failAt cursor .missingName
  | c :: _ =>
    if isNameStart c then
      .ok (String.ofList (cursor.run isNamePart), cursor.skipWhile isNamePart)
    else failAt cursor .missingName

/-- Reads from `<!--` to the next `-->`, which may overlap it. -/
def skipComment (cursor : Cursor) : Except Error Cursor :=
  match Text.cutAround? ['-', '-', '>'] cursor.rest with
  | some (before, _) => .ok (cursor.skip (before.length + 3))
  | none => failAt cursor .unclosedComment

def atComment (cursor : Cursor) : Bool :=
  (Text.afterStart? ['<', '!', '-', '-'] cursor.rest).isSome

/-- Reads blanks and comments, at most one comment for each character of `bound`. -/
def skipTriviaWithin : (bound : List Char) → Cursor → Except Error Cursor
  | [], cursor => .ok cursor.skipBlanks
  | _ :: bound, cursor =>
    if atComment cursor.skipBlanks then do
      let later ← skipComment cursor.skipBlanks
      skipTriviaWithin bound later
    else .ok cursor.skipBlanks

def skipTrivia (cursor : Cursor) : Except Error Cursor :=
  skipTriviaWithin cursor.rest cursor

/-- The length of an unquoted value: up to a blank, `>` or `/>`. -/
def bareLength : List Char → Nat
  | [] => 0
  | '/' :: '>' :: _ => 0
  | c :: rest => if isBlank c || c == '>' then 0 else bareLength rest + 1

def readValue (cursor : Cursor) : Except Error (String × Cursor) :=
  match cursor.rest with
  | [] => failAt cursor .missingValueAtEnd
  | c :: rest =>
    if c = '"' ∨ c = '\'' then
      match Text.cutAt? c rest with
      | some (raw, _) => .ok (String.ofList (Entity.decode raw), cursor.skip (raw.length + 2))
      | none => failAt cursor .unterminatedValue
    else
      let length := bareLength cursor.rest
      if length = 0 then failAt cursor .missingValue
      else
        .ok (String.ofList (Entity.decode (cursor.rest.take length)), cursor.skip length)

def readOptionalValue (cursor : Cursor) : Except Error (Option String × Cursor) :=
  match cursor.skipBlanks.rest with
  | '=' :: _ => do
    let (value, later) ← readValue (cursor.skipBlanks.skip 1).skipBlanks
    return (some value, later)
  | _ => .ok (none, cursor.skipBlanks)

def readAttribute (cursor : Cursor) : Except Error (Attribute × Cursor) :=
  match cursor.run isAttributePart with
  | [] => failAt cursor (.unexpected (cursor.rest.headD '\x00'))
  | [':'] => failAt cursor .emptyBinding
  | ':' :: name => do
    let (value, later) ← readOptionalValue (cursor.skipWhile isAttributePart)
    return (⟨String.ofList name, value, true⟩, later)
  | name => do
    let (value, later) ← readOptionalValue (cursor.skipWhile isAttributePart)
    return (⟨String.ofList name, value, false⟩, later)

def readAttributesWithin : (bound : List Char) → Cursor → Except Error (List Attribute × Cursor)
  | [], cursor => failAt cursor.skipBlanks .endInsideTag
  | _ :: bound, cursor =>
    match cursor.skipBlanks.rest with
    | [] => failAt cursor.skipBlanks .endInsideTag
    | '>' :: _ => .ok ([], cursor.skipBlanks)
    | '/' :: '>' :: _ => .ok ([], cursor.skipBlanks)
    | _ => do
      let (first, later) ← readAttribute cursor.skipBlanks
      let (others, last) ← readAttributesWithin bound later
      return (first :: others, last)

def readAttributes (cursor : Cursor) : Except Error (List Attribute × Cursor) :=
  readAttributesWithin cursor.rest cursor

structure Opening where
  tag : String
  position : Position
  attributes : List Attribute
  complete : Bool

def readOpening (depth : Nat) (cursor : Cursor) : Except Error (Opening × Cursor) := do
  let (tag, named) ← readName (← expect '<' cursor)
  if Text.sameLetters tag "script" then
    throw (.tag "script" .scriptNotFirst)
  if depth ≥ depthLimit then
    failAt cursor (.tooDeep depthLimit)
  let (attributes, last) ← readAttributes named
  match last.rest with
  | '/' :: '>' :: _ => return (⟨tag, cursor.position, attributes, true⟩, last.skip 2)
  | _ =>
    let later ← expect '>' last
    return (⟨tag, cursor.position, attributes, isVoid tag⟩, later)

structure Frame where
  tag : String
  position : Position
  attributes : List Attribute
  children : List (Content Element)

def Frame.close (frame : Frame) : Element :=
  ⟨frame.tag, frame.position, frame.attributes, frame.children.reverse⟩

def Frame.add (frame : Frame) (content : Content Element) : Frame :=
  { frame with children := content :: frame.children }

/-- A document of which a part has been read: the open elements, innermost first, and the finished
elements outside of all others, last first. -/
structure Progress where
  cursor : Cursor
  frames : List Frame
  elements : List Element

namespace Progress

def add (progress : Progress) (element : Element) : Progress :=
  match progress.frames with
  | [] => { progress with elements := element :: progress.elements }
  | frame :: outer => { progress with frames := frame.add (.element element) :: outer }

def moveTo (progress : Progress) (cursor : Cursor) : Progress :=
  { progress with cursor := cursor }

def openElement (progress : Progress) (cursor : Cursor) : Except Error Progress := do
  let (opening, later) ← readOpening progress.frames.length cursor
  if opening.complete then
    return (progress.moveTo later).add ⟨opening.tag, opening.position, opening.attributes, []⟩
  else
    let frame : Frame := ⟨opening.tag, opening.position, opening.attributes, []⟩
    return { progress with cursor := later, frames := frame :: progress.frames }

def closeElement (progress : Progress) (frame : Frame) (outer : List Frame) :
    Except Error Progress := do
  let (closing, named) ← readName (progress.cursor.skip 2)
  let later ← expect '>' named.skipBlanks
  if Text.sameLetters closing frame.tag then
    return { progress with cursor := later, frames := outer }.add frame.close
  else
    failAt progress.cursor (.mismatched frame.tag closing)

def addText (progress : Progress) (frame : Frame) (outer : List Frame) : Progress :=
  let raw := progress.cursor.run (· != '<')
  let text := Text.collapse (Entity.decode raw)
  let later := progress.cursor.skipWhile (· != '<')
  if text.isEmpty then progress.moveTo later
  else { progress with cursor := later, frames := frame.add (.text (String.ofList text)) :: outer }

def step (progress : Progress) : Except Error (Option Progress) :=
  match progress.frames with
  | [] => do
    let cursor ← skipTrivia progress.cursor
    match cursor.rest with
    | [] => return none
    | '<' :: '/' :: _ => failAt cursor .strayClosing
    | '<' :: _ => some <$> progress.openElement cursor
    | _ => failAt cursor .textOutside
  | frame :: outer =>
    if atComment progress.cursor then do
      return some (progress.moveTo (← skipComment progress.cursor))
    else
      match progress.cursor.rest with
      | [] => .error (.markup frame.position (.unclosed frame.tag))
      | '<' :: '/' :: _ => some <$> progress.closeElement frame outer
      | '<' :: _ => some <$> progress.openElement progress.cursor
      | _ => return some (progress.addText frame outer)

def finish (progress : Progress) : Except Error (List Element) :=
  match progress.frames with
  | [] => .ok progress.elements.reverse
  | frame :: _ => .error (.markup frame.position (.unclosed frame.tag))

def runWithin : (steps : Nat) → Progress → Except Error (List Element)
  | 0, progress => progress.finish
  | steps + 1, progress => do
    match ← progress.step with
    | none => progress.finish
    | some later => runWithin steps later

end Progress

def atScript (cursor : Cursor) : Bool :=
  match cursor.rest with
  | '<' :: rest =>
    match Text.afterLetters? "script".toList rest with
    | some (c :: _) => isBlank c || c == '>' || c == '/'
    | _ => false
  | _ => false

def readScript (cursor : Cursor) : Except Error (ScriptBlock × Cursor) := do
  let (_, named) ← readName (← expect '<' cursor)
  let (attributes, last) ← readAttributes named
  let opened ← expect '>' last
  let kind := (attributes.reverse.find? fun given =>
    Text.sameLetters given.name "type").bind Attribute.value
  if kind ≠ some scriptKind then
    throw (.tag "script" (.scriptKind scriptKind))
  match Text.cutAroundLetters? "</script".toList opened.rest with
  | none => failAt cursor .unclosedScript
  | some (content, _) =>
    let later ← expect '>' (opened.skip (content.length + "</script".length)).skipBlanks
    return (⟨String.ofList content, opened.position.line⟩, later)

def readDocument (text : List Char) : Except Error Document := do
  let cursor ← skipTrivia (.ofText text)
  if atScript cursor then
    let (script, later) ← readScript cursor
    let elements ← Progress.runWithin later.rest.length ⟨later, [], []⟩
    return ⟨some script, elements⟩
  else
    let elements ← Progress.runWithin cursor.rest.length ⟨cursor, [], []⟩
    return ⟨none, elements⟩

end UiMarkup.Reader

namespace UiMarkup

def Document.parse (source : String) : Except Error Document :=
  Reader.readDocument source.toList

end UiMarkup
