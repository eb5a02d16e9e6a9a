namespace UiMarkup.Text

def lowered (text : List Char) : List Char :=
  text.map Char.toLower

def lower (text : String) : String :=
  String.ofList (lowered text.toList)

def sameLetters (left right : String) : Bool :=
  lower left == lower right

@[simp] theorem sameLetters_refl (text : String) : sameLetters text text = true := by
  simp [sameLetters]

theorem sameLetters_iff {left right : String} :
    sameLetters left right = true ↔ lower left = lower right := by
  simp [sameLetters]

end UiMarkup.Text
