import Mathlib.Tactic.SplitIfs
import UiMarkup.Markup.Entity

namespace UiMarkup.Decimal

theorem isAlphanum_of_digitValue? {base digit : Nat} {c : Char}
    (h : digitValue? base c = some digit) : c.isAlphanum = true := by
  have range : (48 ≤ c.toNat ∧ c.toNat ≤ 57) ∨ (97 ≤ c.toNat ∧ c.toNat ≤ 102) ∨
      (65 ≤ c.toNat ∧ c.toNat ≤ 70) := by
    unfold digitValue? at h
    simp only at h
    split_ifs at h <;> omega
  change ((decide (65 ≤ c.toNat ∧ c.toNat ≤ 90) || (decide (97 ≤ c.toNat) && decide (c.toNat ≤ 122))) ||
    (decide (48 ≤ c.toNat) && decide (c.toNat ≤ 57))) = true
  simp only [Bool.or_eq_true, Bool.and_eq_true, decide_eq_true_eq]
  omega

theorem isAlphanum_of_digitsValue? {base start value : Nat} {digits : List Char}
    (h : digitsValue? base start digits = some value) : ∀ c ∈ digits, c.isAlphanum = true := by
  induction digits generalizing start with
  | nil => simp
  | cons d digits ih =>
    unfold digitsValue? at h
    split at h
    · rename_i digit hd
      intro c hc
      rcases List.mem_cons.mp hc with rfl | hc
      · exact isAlphanum_of_digitValue? hd
      · exact ih h c hc
    · contradiction

theorem le_digitsValue? {base start value : Nat} {digits : List Char} (positive : 0 < base)
    (h : digitsValue? base start digits = some value) : start ≤ value := by
  induction digits generalizing start with
  | nil => simp_all [digitsValue?]
  | cons d digits ih =>
    unfold digitsValue? at h
    split at h
    · rename_i digit hd
      have later := ih h
      have grown : start ≤ start * base := Nat.le_mul_of_pos_right start positive
      omega
    · contradiction

theorem boundedValue?_eq {base limit start value : Nat} {digits : List Char} (positive : 0 < base)
    (h : digitsValue? base start digits = some value) (bound : value ≤ limit) :
    boundedValue? base limit start digits = some value := by
  induction digits generalizing start with
  | nil => simp_all [digitsValue?, boundedValue?]
  | cons d digits ih =>
    have small := le_digitsValue? positive h
    unfold digitsValue? at h
    split at h
    · rename_i digit hd
      have fits : start ≤ limit := by omega
      simp only [boundedValue?, hd, fits, ↓reduceIte]
      exact ih h
    · contradiction

theorem readNat?_eq {base limit value : Nat} {digits : List Char} (positive : 0 < base)
    (filled : digits ≠ []) (h : digitsValue? base 0 digits = some value) (bound : value ≤ limit) :
    readNat? base limit digits = some value := by
  have same : unsigned digits = digits := by
    unfold unsigned
    split
    · have plus := isAlphanum_of_digitsValue? h '+' (by simp)
      simp at plus
    · rfl
  have some : digits.isEmpty = false := by simpa using filled
  simp only [readNat?, same, some, Bool.false_eq_true, ↓reduceIte]
  exact boundedValue?_eq positive h bound

end UiMarkup.Decimal

namespace UiMarkup.Entity

def named : List (List Char × Char) :=
  [("amp".toList, '&'), ("lt".toList, '<'), ("gt".toList, '>'), ("quot".toList, '"'),
    ("apos".toList, '\''), ("nbsp".toList, '\u00a0')]

/-- What may stand between `&` and `;` for a character: a name of its own, or its code point in
decimal or hexadecimal digits, with any number of leading zeros. -/
inductive IsName (c : Char) : List Char → Prop
  | ofTable {name : List Char} (member : (name, c) ∈ named) : IsName c name
  | decimal {digits : List Char} (filled : digits ≠ [])
      (value : Decimal.digitsValue? 10 0 digits = some c.toNat) : IsName c ('#' :: digits)
  | hexadecimal {x : Char} {digits : List Char} (mark : x = 'x' ∨ x = 'X') (filled : digits ≠ [])
      (value : Decimal.digitsValue? 16 0 digits = some c.toNat) : IsName c ('#' :: x :: digits)

/-- `written` spells a text: each character stands for itself where `plain` allows it, or is written
as an entity. An `&` never stands for itself. -/
inductive Spells (plain : Char → Prop) : (text written : List Char) → Prop
  | nil : Spells plain [] []
  | char {c : Char} {text written : List Char} (itself : plain c) (other : c ≠ '&')
      (rest : Spells plain text written) : Spells plain (c :: text) (c :: written)
  | entity {c : Char} {name text written : List Char} (isName : IsName c name)
      (rest : Spells plain text written) :
      Spells plain (c :: text) ('&' :: name ++ ';' :: written)

theorem spells_self {mark : Char} {text : List Char} (plain : mark ∉ text) (other : '&' ∉ text) :
    Spells (· ≠ mark) text text := by
  induction text with
  | nil => exact .nil
  | cons c text ih =>
    simp only [List.mem_cons, not_or] at plain other
    exact .char (Ne.symm plain.1) (Ne.symm other.1) (ih plain.2 other.2)

theorem charOf?_toNat (c : Char) : charOf? c.toNat = some c := by
  have valid : c.toNat.isValidChar := c.valid
  simp [charOf?, valid]

theorem toNat_le_wordLimit (c : Char) : c.toNat ≤ Decimal.wordLimit := by
  have bound := c.val.toNat_lt
  simp only [Char.toNat, Decimal.wordLimit]
  omega

theorem char?_decimal {c : Char} {digits : List Char} (filled : digits ≠ [])
    (value : Decimal.digitsValue? 10 0 digits = some c.toNat) : char? ('#' :: digits) = some c := by
  have read := Decimal.readNat?_eq (by decide) filled value (toNat_le_wordLimit c)
  obtain ⟨d, rest, rfl⟩ := List.exists_cons_of_ne_nil filled
  have decimal : ¬ (d = 'x' ∨ d = 'X') := by
    rintro (rfl | rfl) <;> simp [Decimal.digitsValue?, Decimal.digitValue?] at value
  simp [char?, numeric?, decimal, read, charOf?_toNat]

theorem char?_hexadecimal {c x : Char} {digits : List Char} (mark : x = 'x' ∨ x = 'X')
    (filled : digits ≠ []) (value : Decimal.digitsValue? 16 0 digits = some c.toNat) :
    char? ('#' :: x :: digits) = some c := by
  have read := Decimal.readNat?_eq (by decide) filled value (toNat_le_wordLimit c)
  simp [char?, numeric?, mark, read, charOf?_toNat]

theorem char?_of_isName {c : Char} {name : List Char} (h : IsName c name) : char? name = some c := by
  cases h with
  | ofTable member =>
    simp only [named, List.mem_cons, Prod.mk.injEq, List.not_mem_nil, or_false] at member
    rcases member with ⟨rfl, rfl⟩ | ⟨rfl, rfl⟩ | ⟨rfl, rfl⟩ | ⟨rfl, rfl⟩ | ⟨rfl, rfl⟩ | ⟨rfl, rfl⟩ <;>
      rfl
  | decimal filled value => exact char?_decimal filled value
  | hexadecimal mark filled value => exact char?_hexadecimal mark filled value

theorem isAlphanum_of_mem_name {c d : Char} {name : List Char} (h : IsName c name) (hd : d ∈ name) :
    d.isAlphanum = true ∨ d = '#' := by
  cases h with
  | ofTable member =>
    have table : named.all (fun entry => entry.1.all Char.isAlphanum) = true := by decide
    simp only [List.all_eq_true] at table
    exact .inl (table _ member d hd)
  | decimal filled value =>
    rcases List.mem_cons.mp hd with rfl | hd
    · exact .inr rfl
    · exact .inl (Decimal.isAlphanum_of_digitsValue? value d hd)
  | hexadecimal mark filled value =>
    simp only [List.mem_cons] at hd
    rcases hd with rfl | rfl | hd
    · exact .inr rfl
    · rcases mark with rfl | rfl <;> exact .inl (by decide)
    · exact .inl (Decimal.isAlphanum_of_digitsValue? value d hd)

theorem after?_of_isName {c : Char} {name : List Char} (h : IsName c name) (rest : List Char) :
    after? (name ++ ';' :: rest) = some (c, name.length + 1) := by
  have inside : ∀ d ∈ name, (d != ';' && d != '&') = true := by
    intro d hd
    rcases isAlphanum_of_mem_name h hd with letter | rfl
    · have semicolon : d ≠ ';' := by rintro rfl; simp at letter
      have ampersand : d ≠ '&' := by rintro rfl; simp at letter
      simp [semicolon, ampersand]
    · decide
  have whole : (name ++ ';' :: rest).takeWhile (fun d => d != ';' && d != '&') = name := by
    rw [List.takeWhile_append_of_pos inside]
    simp
  simp [after?, whole, char?_of_isName h]

theorem decode_char {c : Char} (h : c ≠ '&') (rest : List Char) :
    decode (c :: rest) = c :: decode rest := by
  simp [decode, decodeFrom, h]

theorem decode_entity {c : Char} {name : List Char} (h : IsName c name) (rest : List Char) :
    decode ('&' :: name ++ ';' :: rest) = c :: decode rest := by
  have behind : (name ++ ';' :: rest).drop (name.length + 1) = rest := by
    rw [← List.drop_drop, List.drop_left]
    rfl
  rw [List.cons_append, decode, decodeFrom, if_pos rfl, after?_of_isName h]
  simp only [decodeFrom_eq, behind]

theorem decode_of_spells {plain : Char → Prop} {text written : List Char}
    (h : Spells plain text written) : decode written = text := by
  induction h with
  | nil => rfl
  | char itself other rest ih => rw [decode_char other, ih]
  | entity isName rest ih => rw [decode_entity isName, ih]

theorem ne_nil_of_spells {plain : Char → Prop} {text written : List Char}
    (h : Spells plain text written) (filled : text ≠ []) : written ≠ [] := by
  cases h with
  | nil => contradiction
  | char => simp
  | entity => simp

theorem not_mem_of_spells {plain : Char → Prop} {text written : List Char} {mark : Char}
    (h : Spells plain text written) (apart : ¬ plain mark) (sign : mark.isAlphanum = false)
    (outside : mark ∉ ['&', '#', ';']) : mark ∉ written := by
  induction h with
  | nil => simp
  | @char c text written itself other rest ih =>
    simp only [List.mem_cons, not_or]
    exact ⟨fun same => apart (same ▸ itself), ih⟩
  | @entity c name text written isName rest ih =>
    simp only [List.mem_cons, List.not_mem_nil, or_false, not_or] at outside
    simp only [List.cons_append, List.mem_cons, List.mem_append, not_or]
    refine ⟨outside.1, ?_, outside.2.2, ih⟩
    intro member
    rcases isAlphanum_of_mem_name isName member with letter | same
    · simp [sign] at letter
    · exact outside.2.1 same

end UiMarkup.Entity
