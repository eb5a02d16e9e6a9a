import Mathlib.Data.List.Forall2
import Mathlib.Data.List.Infix
import Mathlib.Data.List.TakeWhile
import UiMarkup.Proofs.Decimal.Digits

namespace UiMarkup.Entity

/-- The ways to write a character: as it is, by its name, or by the digits of its code point, which
may have any number of zeros before them. -/
inductive Escaped (c : Char) : List Char → Prop
  | plain (other : c ≠ '&') : Escaped c [c]
  | named {name : List Char} (member : (name, c) ∈ named) : Escaped c ('&' :: name ++ [';'])
  | decimal (zeros : Nat) :
      Escaped c ('&' :: '#' :: (List.replicate zeros '0' ++ Nat.toDigits 10 c.toNat) ++ [';'])
  | hexadecimal {x : Char} {digits : List Char} (mark : x = 'x' ∨ x = 'X') (zeros : Nat)
      (anyCase : digits.map Char.toLower = Nat.toDigits 16 c.toNat) :
      Escaped c ('&' :: '#' :: x :: (List.replicate zeros '0' ++ digits) ++ [';'])

def Closed (text : List Char) : Prop :=
  ∀ rest, '&' :: rest <:+ text → ';' ∈ rest

instance (text : List Char) : Decidable (Closed text) :=
  decidable_of_iff (text.tails.all (fun tail => tail.head? != some '&' || tail.contains ';') = true) (by
    simp only [List.all_eq_true, List.mem_tails, Closed]
    constructor
    · intro all rest ending
      simpa using all _ ending
    · intro closed tail ending
      cases tail with
      | nil => rfl
      | cons c rest =>
        by_cases ampersand : c = '&'
        · subst ampersand
          simp [closed rest ending]
        · simp [ampersand])

theorem isName_decimal (c : Char) (zeros : Nat) :
    IsName c ('#' :: (List.replicate zeros '0' ++ Nat.toDigits 10 c.toNat)) := by
  apply IsName.decimal
  · simp [Nat.toDigits_ne_nil]
  · rw [Decimal.digitsValue?_append, Decimal.digitsValue?_zeros (by decide), Option.bind_some]
    exact Decimal.digitsValue?_toDigits (by decide) (by decide) c.toNat

theorem isName_hexadecimal {c x : Char} {digits : List Char} (mark : x = 'x' ∨ x = 'X') (zeros : Nat)
    (anyCase : digits.map Char.toLower = Nat.toDigits 16 c.toNat) :
    IsName c ('#' :: x :: (List.replicate zeros '0' ++ digits)) := by
  apply IsName.hexadecimal mark
  · rintro empty
    have none : digits = [] := (List.append_eq_nil_iff.mp empty).2
    rw [none] at anyCase
    exact Nat.toDigits_ne_nil anyCase.symm
  · exact Decimal.digitsValue?_spelled (by decide) (by decide) zeros anyCase

theorem decode_escaped {c : Char} {piece : List Char} (escaped : Escaped c piece) (rest : List Char) :
    decode (piece ++ rest) = c :: decode rest := by
  have entity {name : List Char} (isName : IsName c name) :
      decode ('&' :: name ++ [';'] ++ rest) = c :: decode rest := by
    rw [List.append_assoc]
    exact decode_entity isName rest
  cases escaped with
  | plain other => exact decode_char other rest
  | named member => exact entity (.ofTable member)
  | decimal zeros => exact entity (isName_decimal c zeros)
  | hexadecimal mark zeros anyCase => exact entity (isName_hexadecimal mark zeros anyCase)

theorem decode_flatten {text : List Char} {pieces : List (List Char)}
    (escaped : List.Forall₂ Escaped text pieces) : decode pieces.flatten = text := by
  induction escaped with
  | nil => rfl
  | cons first _ ih => rw [List.flatten_cons, decode_escaped first, ih]

theorem Closed.tail {c : Char} {text : List Char} (closed : Closed (c :: text)) : Closed text := by
  intro rest ending
  exact closed rest (ending.trans (List.suffix_cons c text))

/-- An entity that ends within a text is the same one whatever follows the text. -/
theorem after?_append {text : List Char} (closing : ';' ∈ text) (rest : List Char) :
    after? (text ++ rest) = after? text := by
  have stops : (text.takeWhile fun c => c != ';' && c != '&').length < text.length := by
    refine Nat.lt_of_le_of_ne (List.takeWhile_prefix _).length_le ?_
    intro whole
    have all := (List.takeWhile_prefix _).eq_of_length whole
    have kept := List.takeWhile_eq_self_iff.mp all ';' closing
    simp at kept
  have sameName : (text ++ rest).takeWhile (fun c => c != ';' && c != '&') =
      text.takeWhile fun c => c != ';' && c != '&' := by
    rw [List.takeWhile_append, if_neg (Nat.ne_of_lt stops)]
  obtain ⟨c, behind, here⟩ := List.exists_cons_of_ne_nil (mt List.drop_eq_nil_iff.mp (Nat.not_le.mpr stops))
  have further : (text ++ rest).drop (text.takeWhile fun c => c != ';' && c != '&').length =
      c :: (behind ++ rest) := by
    rw [List.drop_append_of_le_length (Nat.le_of_lt stops), here, List.cons_append]
  simp only [after?, sameName, here, further]
  by_cases semicolon : c = ';'
  · subst semicolon
    rfl
  · split <;> split <;> simp_all

theorem length_after? {text : List Char} {c : Char} {length : Nat}
    (found : after? text = some (c, length)) : length ≤ text.length := by
  unfold after? at found
  simp only at found
  split at found
  · rename_i behind here
    obtain ⟨decoded, _, same⟩ := Option.map_eq_some_iff.mp found
    have size := congrArg List.length here
    rw [List.length_drop, List.length_cons] at size
    cases same
    omega
  · cases found

theorem decodeFrom_append {text : List Char} (closed : Closed text) (rest : List Char) {skip : Nat}
    (inside : skip ≤ text.length) :
    decodeFrom skip (text ++ rest) = decodeFrom skip text ++ decode rest := by
  induction text generalizing skip with
  | nil =>
    obtain rfl : skip = 0 := Nat.le_zero.mp inside
    rfl
  | cons c text ih =>
    have later {skip : Nat} (inside : skip ≤ text.length) := ih closed.tail inside
    cases skip with
    | succ skip => exact later (Nat.le_of_succ_le_succ inside)
    | zero =>
      simp only [List.cons_append, decodeFrom]
      by_cases ampersand : c = '&'
      · subst ampersand
        -- what the `&` starts ends before the text does, if it ends at all
        rw [after?_append (closed text (List.suffix_refl _)) rest]
        simp only [↓reduceIte]
        split
        · rename_i decoded length found
          rw [later (length_after? found), List.cons_append]
        · rw [later (Nat.zero_le _), List.cons_append]
      · simp only [ampersand, ↓reduceIte, later (Nat.zero_le _), List.cons_append]

/-- Decoding inverts every way to escape a text, and it goes piece by piece where no entity can reach
into the next piece. -/
theorem decode_in_pieces :
    (∀ (text : List Char) (pieces : List (List Char)), List.Forall₂ Escaped text pieces →
      decode pieces.flatten = text) ∧
    (∀ text rest : List Char, Closed text → decode (text ++ rest) = decode text ++ decode rest) := by
  constructor
  · intro text pieces escaped
    exact decode_flatten escaped
  · intro text rest closed
    exact decodeFrom_append closed rest (Nat.zero_le _)

/-- Digits that give the signs of an entity do not make one, and an `&` may stand before an entity
that has nothing to do with it. -/
theorem decode_in_pieces_mixed :
    decode ["&#038;".toList, ['l'], ['t'], "&#X003B;".toList].flatten = "&lt;".toList ∧
      Closed "& &amp;lt;".toList ∧
      decode ("& &amp;lt;".toList ++ "&gt".toList) = "& &lt;".toList ++ "&gt".toList := by
  refine ⟨?_, by decide, ?_⟩
  · apply decode_in_pieces.1
    refine .cons ?_ (.cons (.plain (by decide)) (.cons (.plain (by decide)) (.cons ?_ .nil)))
    · exact .decimal 1
    · exact @Escaped.hexadecimal ';' 'X' ['3', 'B'] (.inr rfl) 2 (by decide)
  · rw [decode_in_pieces.2 _ _ (by decide)]
    decide

end UiMarkup.Entity
