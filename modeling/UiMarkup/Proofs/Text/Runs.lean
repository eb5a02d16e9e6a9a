import Mathlib.Data.List.TakeWhile

namespace UiMarkup

/-- A run of characters that satisfy `keep` cannot go on into `rest`. -/
def Stops (keep : Char → Bool) (rest : List Char) : Prop :=
  ∀ c ∈ rest.head?, keep c = false

instance (keep : Char → Bool) (rest : List Char) : Decidable (Stops keep rest) :=
  decidable_of_iff (rest.head?.any keep = false) (by cases rest <;> simp [Stops])

namespace Stops

variable {keep : Char → Bool} {text rest : List Char}

theorem nil (keep : Char → Bool) : Stops keep [] := by
  simp [Stops]

theorem cons {c : Char} (h : keep c = false) (rest : List Char) : Stops keep (c :: rest) := by
  simpa [Stops] using h

theorem dropWhile (keep : Char → Bool) (text : List Char) : Stops keep (text.dropWhile keep) := by
  intro c first
  have stop := List.head?_dropWhile_not keep text
  have head : (text.dropWhile keep).head? = some c := first
  rw [head] at stop
  exact stop

theorem takeWhile_append_left (text : List Char) (stop : Stops keep rest) :
    (text ++ rest).takeWhile keep = text.takeWhile keep := by
  induction text with
  | nil =>
    cases rest with
    | nil => rfl
    | cons c rest =>
      have outside := stop c rfl
      simp [outside]
  | cons c text ih =>
    rw [List.cons_append, List.takeWhile_cons, List.takeWhile_cons, ih]

theorem takeWhile_append (inside : ∀ c ∈ text, keep c = true) (stop : Stops keep rest) :
    (text ++ rest).takeWhile keep = text := by
  rw [takeWhile_append_left text stop]
  exact List.takeWhile_eq_self_iff.mpr inside

theorem dropWhile_append (inside : ∀ c ∈ text, keep c = true) (stop : Stops keep rest) :
    (text ++ rest).dropWhile keep = rest := by
  rw [List.dropWhile_append_of_pos inside]
  cases rest with
  | nil => rfl
  | cons c rest =>
    have outside := stop c rfl
    simp [outside]

theorem cancel {other more : List Char} (inside : ∀ c ∈ text, keep c = true)
    (insideOther : ∀ c ∈ other, keep c = true) (stop : Stops keep rest)
    (stopOther : Stops keep more) (same : text ++ rest = other ++ more) :
    text = other ∧ rest = more := by
  constructor
  · rw [← takeWhile_append inside stop, same, takeWhile_append insideOther stopOther]
  · rw [← dropWhile_append inside stop, same, dropWhile_append insideOther stopOther]

end Stops

end UiMarkup
