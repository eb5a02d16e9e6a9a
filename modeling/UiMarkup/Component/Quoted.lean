namespace UiMarkup.Quoted

def escapeChar (c : Char) : List Char :=
  if c = '"' then ['\\', '"']
  else if c = '\\' then ['\\', '\\']
  else if c = '\n' then ['\\', 'n']
  else if c = '\t' then ['\\', 't']
  else [c]

def escape (text : List Char) : List Char :=
  text.flatMap escapeChar

def quote (text : String) : String :=
  String.ofList ('"' :: escape text.toList ++ ['"'])

def unescapeChar (c : Char) : Char :=
  if c = 'n' then '\n' else if c = 't' then '\t' else c

def read? : List Char → Option (List Char × List Char)
  | [] => none
  | ['\\'] => none
  | '\\' :: c :: rest => (read? rest).map fun (text, after) => (unescapeChar c :: text, after)
  | c :: rest =>
    if c = '"' then some ([], rest)
    else (read? rest).map fun (text, after) => (c :: text, after)

theorem read?_escapeChar (c : Char) (rest : List Char) :
    read? (escapeChar c ++ rest) = (read? rest).map fun (text, after) => (c :: text, after) := by
  by_cases quote : c = '"'
  · subst quote; simp [escapeChar, read?, unescapeChar]
  by_cases backslash : c = '\\'
  · subst backslash; simp [escapeChar, read?, unescapeChar]
  by_cases newline : c = '\n'
  · subst newline; simp [escapeChar, read?, unescapeChar]
  by_cases tab : c = '\t'
  · subst tab; simp [escapeChar, read?, unescapeChar]
  simp [escapeChar, quote, backslash, newline, tab, read?]

theorem read?_escape (text rest : List Char) :
    read? (escape text ++ '"' :: rest) = some (text, rest) := by
  induction text with
  | nil => simp [escape, read?]
  | cons c text ih =>
    rw [show escape (c :: text) = escapeChar c ++ escape text from rfl, List.append_assoc,
      read?_escapeChar, ih]
    rfl

end UiMarkup.Quoted
