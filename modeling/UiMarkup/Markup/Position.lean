namespace UiMarkup

structure Position where
  line : Nat
  column : Nat
deriving DecidableEq, Repr

namespace Position

def start : Position := ⟨1, 1⟩

def after (position : Position) (c : Char) : Position :=
  if c = '\n' then ⟨position.line + 1, 1⟩ else ⟨position.line, position.column + 1⟩

def advance (position : Position) (text : List Char) : Position :=
  text.foldl after position

@[simp] theorem advance_nil (position : Position) : position.advance [] = position := rfl

@[simp] theorem advance_cons (position : Position) (c : Char) (text : List Char) :
    position.advance (c :: text) = (position.after c).advance text := rfl

theorem advance_append (position : Position) (left right : List Char) :
    position.advance (left ++ right) = (position.advance left).advance right := by
  simp [advance, List.foldl_append]

end Position

end UiMarkup
