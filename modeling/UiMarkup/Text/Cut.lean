namespace UiMarkup.Text

def afterStart? : (start text : List Char) → Option (List Char)
  | [], text => some text
  | _ :: _, [] => none
  | s :: start, c :: text => if s = c then afterStart? start text else none

def beforeEnd? (tail text : List Char) : Option (List Char) :=
  (afterStart? tail.reverse text.reverse).map List.reverse

def cutAt? (mark : Char) : List Char → Option (List Char × List Char)
  | [] => none
  | c :: rest =>
    if c = mark then some ([], rest)
    else (cutAt? mark rest).map fun (before, after) => (c :: before, after)

def cutAround? (needle : List Char) : List Char → Option (List Char × List Char)
  | [] => (afterStart? needle []).map fun after => ([], after)
  | c :: rest =>
    match afterStart? needle (c :: rest) with
    | some after => some ([], after)
    | none => (cutAround? needle rest).map fun (before, after) => (c :: before, after)

def afterLetters? : (start text : List Char) → Option (List Char)
  | [], text => some text
  | _ :: _, [] => none
  | s :: start, c :: text => if s = c.toLower then afterLetters? start text else none

/-- The two parts of a text around the first place where `needle`, a text in small letters, stands in
any ASCII letter case. -/
def cutAroundLetters? (needle : List Char) : List Char → Option (List Char × List Char)
  | [] => (afterLetters? needle []).map fun after => ([], after)
  | c :: rest =>
    match afterLetters? needle (c :: rest) with
    | some after => some ([], after)
    | none => (cutAroundLetters? needle rest).map fun (before, after) => (c :: before, after)

def stripWhere (drop : Char → Bool) (text : List Char) : List Char :=
  ((text.dropWhile drop).reverse.dropWhile drop).reverse

end UiMarkup.Text
