import UiMarkup.Settings.Toml.Scalar

namespace UiMarkup.Toml

def skipComment (text : List Char) : Option (List Char) :=
  match text with
  | '#' :: rest =>
    let shown := rest.takeWhile fun c => !isControl c
    let after := rest.dropWhile fun c => !isControl c
    if after.isEmpty ∨ isLineEnd after then some (rest.drop shown.length) else none
  | _ => some text

def skipGapsWithin : (bound : List Char) → List Char → Option (List Char)
  | [], text => some text
  | _ :: bound, text => do
    let after ← skipComment (text.dropWhile isSpace)
    match afterNewline? after with
    | some next => skipGapsWithin bound next
    | none => return after

def skipGaps (text : List Char) : Option (List Char) :=
  skipGapsWithin text text

mutual

def readValue : (steps depth : Nat) → List Char → Option (Value × List Char)
  | 0, _, _ => none
  | steps + 1, depth, text =>
    match text with
    | '[' :: rest => do
      if depth = 0 then none
      let (items, after) ← readItems steps (depth - 1) rest
      return (.array items, after)
    | '\x7b' :: rest => do
      if depth = 0 then none
      let (entries, after) ← readEntries steps (depth - 1) [] rest
      return (.inline entries, after)
    | '"' :: _ | '\'' :: _ => do
      let (content, after) ← readString text
      return (.string (String.ofList content), after)
    | _ => readScalar text

def readItems : (steps depth : Nat) → List Char → Option (List Value × List Char)
  | 0, _, _ => none
  | steps + 1, depth, text => do
    match ← skipGaps text with
    | ']' :: rest => return ([], rest)
    | start =>
      let (item, rest) ← readValue steps depth start
      match ← skipGaps rest with
      | ',' :: rest =>
        let (items, after) ← readItems steps depth rest
        return (item :: items, after)
      | ']' :: rest => return ([item], rest)
      | _ => none

def readEntries : (steps depth : Nat) → Table → List Char → Option (Table × List Char)
  | 0, _, _, _ => none
  | steps + 1, depth, table, text => do
    match ← skipGaps text with
    | '\x7d' :: rest => return (table, rest)
    | start =>
      let (key, rest) ← readKey start
      let rest ← Text.afterStart? ['='] (← skipGaps rest)
      let (value, rest) ← readValue steps depth (← skipGaps rest)
      let longer ← assign value key table
      match ← skipGaps rest with
      | ',' :: rest => readEntries steps depth longer rest
      | '\x7d' :: rest => return (longer, rest)
      | _ => none

end

structure Progress where
  root : Table
  path : List String

def readHeader (progress : Progress) (text : List Char) : Option (Progress × List Char) := do
  match text with
  | '[' :: rest =>
    let (key, after) ← readKey rest
    let name ← key.getLast?
    let root ← changeAt (addTable name) key.dropLast progress.root
    return (⟨root, key⟩, ← Text.afterStart? [']', ']'] after)
  | rest =>
    let (key, after) ← readKey rest
    let name ← key.getLast?
    let root ← changeAt (openTable name) key.dropLast progress.root
    return (⟨root, key⟩, ← Text.afterStart? [']'] after)

def readAssignment (progress : Progress) (text : List Char) : Option (Progress × List Char) := do
  let (key, rest) ← readKey text
  let start := (← Text.afterStart? ['='] rest).dropWhile isSpace
  let (value, after) ← readValue start.length depthLimit start
  let root ← changeAt (assign value key) progress.path progress.root
  return ({ progress with root }, after)

def readStatement (progress : Progress) (text : List Char) : Option (Progress × List Char) :=
  match text with
  | [] | '#' :: _ | '\n' :: _ | '\r' :: _ => some (progress, text)
  | '[' :: rest => readHeader progress rest
  | _ => readAssignment progress text

def readLines : (steps : Nat) → Progress → List Char → Option Table
  | 0, progress, text => if text.isEmpty then some progress.root else none
  | steps + 1, progress, text => do
    let (progress, rest) ← readStatement progress (text.dropWhile isSpace)
    let rest ← skipComment (rest.dropWhile isSpace)
    match rest with
    | [] => return progress.root
    | _ => readLines steps progress (← afterNewline? rest)

def withoutMark : List Char → List Char
  | '\ufeff' :: rest => rest
  | text => text

def parse (text : String) : Option Table :=
  let content := withoutMark text.toList
  readLines (content.length + 1) ⟨[], []⟩ content

end UiMarkup.Toml
