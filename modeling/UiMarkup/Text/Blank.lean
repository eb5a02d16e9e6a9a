namespace UiMarkup.Text

def isBlank (c : Char) : Bool :=
  let n := c.toNat
  if n < 0x80 then n == 0x20 || (0x09 ≤ n && n ≤ 0x0D)
  else
    n == 0x85 || n == 0xA0 || n == 0x1680 || (0x2000 ≤ n && n ≤ 0x200A)
      || n == 0x2028 || n == 0x2029 || n == 0x202F || n == 0x205F || n == 0x3000

def trimStart (text : List Char) : List Char :=
  text.dropWhile isBlank

def trimEnd (text : List Char) : List Char :=
  (text.reverse.dropWhile isBlank).reverse

def trim (text : List Char) : List Char :=
  trimEnd (trimStart text)

def splitWhere (cut : Char → Bool) : List Char → List (List Char)
  | [] => [[]]
  | c :: rest =>
    if cut c then [] :: splitWhere cut rest
    else
      match splitWhere cut rest with
      | [] => [[c]]
      | part :: parts => (c :: part) :: parts

def words (text : List Char) : List (List Char) :=
  (splitWhere isBlank text).filter fun word => !word.isEmpty

def joinWith (separator : List Char) : List (List Char) → List Char
  | [] => []
  | [part] => part
  | part :: next :: parts => part ++ separator ++ joinWith separator (next :: parts)

def collapse (text : List Char) : List Char :=
  joinWith [' '] (words text)

theorem splitWhere_ne_nil (cut : Char → Bool) (text : List Char) : splitWhere cut text ≠ [] := by
  cases text with
  | nil => simp [splitWhere]
  | cons c rest =>
    unfold splitWhere
    split
    · simp
    · split <;> simp

end UiMarkup.Text
