import UiMarkup.Decimal.Real
import UiMarkup.Proofs.Markup.Completeness
import UiMarkup.Proofs.Markup.Spelling

namespace UiMarkup.Decimal

def isNumberPart (c : Char) : Bool :=
  c.isAlphanum || c == '+' || c == '-' || c == '.'

theorem isNumberPart_of_isAlphanum {c : Char} (letter : c.isAlphanum = true) :
    isNumberPart c = true := by
  simp [isNumberPart, letter]

theorem isNumberPart_of_isDigit {c : Char} (digit : c.isDigit = true) : isNumberPart c = true := by
  apply isNumberPart_of_isAlphanum
  simp [Char.isAlphanum, digit]

theorem isNumberPart_of_lowered {text word : List Char} (same : text.map Char.toLower = word)
    (parts : ∀ c ∈ word, isNumberPart c = true) : ∀ c ∈ text, isNumberPart c = true := by
  intro c member
  have low : isNumberPart c.toLower = isNumberPart c := Reader.toLower_class (by decide +kernel) c
  rw [← low]
  apply parts
  rw [← same]
  exact List.mem_map_of_mem member

theorem isNumberPart_of_powerValue? {start value : Nat} {text : List Char}
    (h : powerValue? start text = some value) : ∀ c ∈ text, isNumberPart c = true := by
  induction text generalizing start with
  | nil => simp
  | cons c rest ih =>
    unfold powerValue? at h
    split at h
    · rename_i digit read
      exact List.forall_mem_cons.mpr ⟨isNumberPart_of_isAlphanum (isAlphanum_of_digitValue? read), ih h⟩
    · cases h

theorem isNumberPart_of_power? {value : Nat} {text : List Char} (h : power? text = some value) :
    ∀ c ∈ text, isNumberPart c = true := by
  unfold power? at h
  split at h
  · cases h
  · exact isNumberPart_of_powerValue? h

theorem isNumberPart_of_readExponent? {exponent : Int} {text : List Char}
    (h : readExponent? text = some exponent) : ∀ c ∈ text, isNumberPart c = true := by
  unfold readExponent? at h
  split at h
  · simp
  · split at h
    · rename_i mark rest isMark
      have first : isNumberPart mark = true := by
        rcases isMark with rfl | rfl <;> decide
      rw [List.forall_mem_cons]
      refine ⟨first, ?_⟩
      split at h
      · obtain ⟨power, signed, _⟩ := Option.map_eq_some_iff.mp h
        obtain ⟨value, read, _⟩ := Option.bind_eq_some_iff.mp signed
        exact List.forall_mem_cons.mpr ⟨by decide, isNumberPart_of_power? read⟩
      · obtain ⟨power, read, _⟩ := Option.map_eq_some_iff.mp h
        exact List.forall_mem_cons.mpr ⟨by decide, isNumberPart_of_power? read⟩
      · obtain ⟨power, read, _⟩ := Option.map_eq_some_iff.mp h
        exact isNumberPart_of_power? read
    · cases h

theorem isNumberPart_of_dropWhile {text : List Char}
    (rest : ∀ c ∈ text.dropWhile Char.isDigit, isNumberPart c = true) :
    ∀ c ∈ text, isNumberPart c = true := by
  rw [← @List.takeWhile_append_dropWhile _ Char.isDigit text, List.forall_mem_append]
  refine ⟨?_, rest⟩
  intro c member
  exact isNumberPart_of_isDigit (List.mem_takeWhile_imp member)

theorem isNumberPart_of_readMagnitude? {text : List Char} {x : Float}
    (h : readMagnitude? text = some x) : ∀ c ∈ text, isNumberPart c = true := by
  unfold readMagnitude? at h
  simp only at h
  split at h
  · rename_i word
    rcases word with same | same
    · exact isNumberPart_of_lowered same (List.all_eq_true.mp (by decide))
    · exact isNumberPart_of_lowered same (List.all_eq_true.mp (by decide))
  · split at h
    · rename_i word
      exact isNumberPart_of_lowered word (List.all_eq_true.mp (by decide))
    · apply isNumberPart_of_dropWhile
      split at h
      · rename_i rest shape
        rw [shape, List.forall_mem_cons]
        refine ⟨by decide, isNumberPart_of_dropWhile ?_⟩
        split at h
        · cases h
        · obtain ⟨exponent, read, _⟩ := Option.map_eq_some_iff.mp h
          exact isNumberPart_of_readExponent? read
      · split at h
        · cases h
        · obtain ⟨exponent, read, _⟩ := Option.map_eq_some_iff.mp h
          exact isNumberPart_of_readExponent? read

theorem isNumberPart_of_readReal? {text : List Char} {x : Float} (h : readReal? text = some x) :
    ∀ c ∈ text, isNumberPart c = true := by
  unfold readReal? at h
  split at h
  · obtain ⟨magnitude, read, _⟩ := Option.map_eq_some_iff.mp h
    exact List.forall_mem_cons.mpr ⟨by decide, isNumberPart_of_readMagnitude? read⟩
  · exact List.forall_mem_cons.mpr ⟨by decide, isNumberPart_of_readMagnitude? h⟩
  · exact isNumberPart_of_readMagnitude? h

theorem isNumberPart_of_readFinite? {text : List Char} {x : Float} (h : readFinite? text = some x) :
    ∀ c ∈ text, isNumberPart c = true := by
  unfold readFinite? at h
  split at h
  · rename_i read
    exact isNumberPart_of_readReal? read
  · cases h

end UiMarkup.Decimal
