import UiMarkup.Markup.Position
import UiMarkup.Text.Blank

namespace UiMarkup

structure Cursor where
  position : Position
  rest : List Char

namespace Cursor

def ofText (text : List Char) : Cursor :=
  ⟨.start, text⟩

def skip (cursor : Cursor) (count : Nat) : Cursor :=
  ⟨cursor.position.advance (cursor.rest.take count), cursor.rest.drop count⟩

def run (cursor : Cursor) (keep : Char → Bool) : List Char :=
  cursor.rest.takeWhile keep

def skipWhile (cursor : Cursor) (keep : Char → Bool) : Cursor :=
  ⟨cursor.position.advance (cursor.rest.takeWhile keep), cursor.rest.dropWhile keep⟩

def skipBlanks (cursor : Cursor) : Cursor :=
  cursor.skipWhile Text.isBlank

def Reads (cursor : Cursor) (text : List Char) (later : Cursor) : Prop :=
  cursor.rest = text ++ later.rest ∧ later.position = cursor.position.advance text

theorem Reads.refl (cursor : Cursor) : Reads cursor [] cursor :=
  ⟨rfl, rfl⟩

theorem Reads.trans {first second third : Cursor} {left right : List Char}
    (h : Reads first left second) (k : Reads second right third) :
    Reads first (left ++ right) third := by
  refine ⟨?_, ?_⟩
  · rw [h.1, k.1, List.append_assoc]
  · rw [k.2, h.2, Position.advance_append]

theorem reads_skip (cursor : Cursor) (count : Nat) :
    Reads cursor (cursor.rest.take count) (cursor.skip count) :=
  ⟨(List.take_append_drop count cursor.rest).symm, rfl⟩

theorem reads_skipWhile (cursor : Cursor) (keep : Char → Bool) :
    Reads cursor (cursor.run keep) (cursor.skipWhile keep) :=
  ⟨List.takeWhile_append_dropWhile.symm, rfl⟩

end Cursor

end UiMarkup
