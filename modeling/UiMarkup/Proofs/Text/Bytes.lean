import Mathlib.Data.List.Lex
import Mathlib.Data.String.Basic

namespace UiMarkup.Text

def bytes (text : String) : List UInt8 :=
  text.toUTF8.data.toList

theorem bytes_eq (text : String) : bytes text = text.toList.flatMap String.utf8EncodeChar := by
  have whole : text.toByteArray = text.toList.utf8Encode := by
    rw [← String.toByteArray_ofList, String.ofList_toList]
  rw [bytes, String.toUTF8_eq_toByteArray, whole, List.utf8Encode, List.data_toByteArray]

theorem ofNat_cons_lt {a b : Nat} {left right : List UInt8} (bound : b < 256)
    (less : a < b ∨ (a = b ∧ left < right)) : UInt8.ofNat a :: left < UInt8.ofNat b :: right := by
  rw [List.cons_lt_cons_iff, UInt8.lt_iff_toNat_lt, UInt8.toNat_ofNat', UInt8.toNat_ofNat']
  rcases less with less | ⟨rfl, less⟩
  · left
    omega
  · exact .inr ⟨rfl, less⟩

/-- A smaller character has a smaller byte where the two differ first. -/
theorem utf8EncodeChar_append_lt {c d : Char} (less : c < d) (left right : List UInt8) :
    String.utf8EncodeChar c ++ left < String.utf8EncodeChar d ++ right := by
  have order : c.val.toNat < d.val.toNat := less
  have bound : d.val.toNat < 1114112 := by
    have valid := d.valid
    unfold UInt32.isValidChar Nat.isValidChar at valid
    omega
  unfold String.utf8EncodeChar
  generalize c.val.toNat = v at *
  generalize d.val.toNat = w at *
  simp only
  repeat' split
  all_goals try omega
  -- characters of different lengths differ in their first bytes
  all_goals try exact ofNat_cons_lt (by omega) (.inl (by omega))
  all_goals simp only [List.cons_append, List.nil_append]
  · refine ofNat_cons_lt (by omega) ?_
    by_cases high : v / 64 = w / 64
    · exact .inr ⟨by rw [high], ofNat_cons_lt (by omega) (.inl (by omega))⟩
    · exact .inl (by omega)
  · refine ofNat_cons_lt (by omega) ?_
    by_cases high : v / 4096 = w / 4096
    · refine .inr ⟨by rw [high], ofNat_cons_lt (by omega) ?_⟩
      by_cases middle : v / 64 = w / 64
      · exact .inr ⟨by rw [middle], ofNat_cons_lt (by omega) (.inl (by omega))⟩
      · exact .inl (by omega)
    · exact .inl (by omega)
  · refine ofNat_cons_lt (by omega) ?_
    by_cases highest : v / 262144 = w / 262144
    · refine .inr ⟨by rw [highest], ofNat_cons_lt (by omega) ?_⟩
      by_cases high : v / 4096 = w / 4096
      · refine .inr ⟨by rw [high], ofNat_cons_lt (by omega) ?_⟩
        by_cases middle : v / 64 = w / 64
        · exact .inr ⟨by rw [middle], ofNat_cons_lt (by omega) (.inl (by omega))⟩
        · exact .inl (by omega)
      · exact .inl (by omega)
    · exact .inl (by omega)

theorem flatMap_utf8EncodeChar_lt {left right : List Char} (less : left < right) :
    left.flatMap String.utf8EncodeChar < right.flatMap String.utf8EncodeChar := by
  induction left generalizing right with
  | nil =>
    cases right with
    | nil => exact absurd less (List.not_lt_nil [])
    | cons d right =>
      have filled : (d :: right).flatMap String.utf8EncodeChar ≠ [] := by
        rw [List.flatMap_cons]
        exact List.append_ne_nil_of_left_ne_nil String.utf8EncodeChar_ne_nil _
      obtain ⟨first, rest, shape⟩ := List.exists_cons_of_ne_nil filled
      rw [shape]
      exact List.nil_lt_cons first rest
  | cons c left ih =>
    cases right with
    | nil => exact absurd less (List.not_lt_nil _)
    | cons d right =>
      rw [List.flatMap_cons, List.flatMap_cons]
      rcases List.cons_lt_cons_iff.mp less with first | ⟨rfl, rest⟩
      · exact utf8EncodeChar_append_lt first _ _
      · exact List.append_left_lt (ih rest)

theorem bytes_lt_iff {left right : String} : bytes left < bytes right ↔ left < right := by
  have forward {left right : String} (less : left < right) : bytes left < bytes right := by
    rw [bytes_eq, bytes_eq]
    exact flatMap_utf8EncodeChar_lt (String.lt_iff_toList_lt.mp less)
  refine ⟨?_, forward⟩
  intro less
  rcases lt_trichotomy left right with before | rfl | behind
  · exact before
  · exact absurd less (List.lt_irrefl _)
  · exact absurd less (List.lt_asymm (forward behind))

theorem map_bytes_lt {left right : List String} (less : left < right) :
    left.map bytes < right.map bytes := by
  induction left generalizing right with
  | nil =>
    cases right with
    | nil => exact absurd less (List.not_lt_nil [])
    | cons name right => exact List.nil_lt_cons _ _
  | cons first left ih =>
    cases right with
    | nil => exact absurd less (List.not_lt_nil _)
    | cons second right =>
      rw [List.map_cons, List.map_cons]
      rcases List.cons_lt_cons_iff.mp less with before | ⟨rfl, behind⟩
      · exact List.cons_lt_cons_iff.mpr (.inl (bytes_lt_iff.mpr before))
      · exact List.cons_lt_cons_iff.mpr (.inr ⟨rfl, ih behind⟩)

end UiMarkup.Text
