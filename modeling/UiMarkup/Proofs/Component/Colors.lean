import Mathlib.Data.String.Basic
import UiMarkup.Proofs.Component.Declarations
import UiMarkup.Proofs.Decimal.Digits
import UiMarkup.Proofs.Markup.Completeness
import UiMarkup.Proofs.Text.Search
import UiMarkup.Proofs.Text.Spacing

namespace UiMarkup

namespace Decimal

variable {c : Char} {digit : Nat}

theorem toNat_of_digitValue? (read : digitValue? 16 c = some digit) : c.toNat < 103 := by
  by_contra large
  rw [digitValue?_of_other (by omega) (by omega) (by omega)] at read
  cases read

theorem toLower_of_digitValue? (read : digitValue? 16 c = some digit) :
    digit < 16 ∧ c.toLower = digit.digitChar := by
  have table : ∀ n ∈ List.range 103, ∀ digit ∈ digitValue? 16 (Char.ofNat n),
      digit < 16 ∧ (Char.ofNat n).toLower = digit.digitChar := by decide +kernel
  have found := table c.toNat (List.mem_range.mpr (toNat_of_digitValue? read)) digit
  rw [Char.ofNat_toNat] at found
  exact found read

end Decimal

namespace Text

theorem isBlank_toLower (c : Char) : isBlank c.toLower = isBlank c :=
  Reader.toLower_class (by decide +kernel) c

theorem stops_of_lowered {text : List Char} (stop : Stops isBlank (lowered text)) : Stops isBlank text := by
  intro c first
  rw [← isBlank_toLower]
  apply stop
  rw [lowered, List.head?_map, Option.mem_def.mp first]
  rfl

theorem trim_of_lowered {text : List Char} (head : Stops isBlank (lowered text))
    (last : Stops isBlank (lowered text).reverse) : trim text = text := by
  refine trim_of_stops (stops_of_lowered head) (stops_of_lowered ?_)
  rwa [lowered, List.map_reverse]

end Text

namespace Color

open Text (isBlank lowered)

def SixDigits (digits : List Char) : Prop :=
  digits.length = 6 ∧ ∀ c ∈ digits, c ∈ "0123456789abcdef".toList

theorem sixDigits_of_all {digits : List Char}
    (h : (digits.length == 6 && digits.all ("0123456789abcdef".toList.contains ·)) = true) :
    SixDigits digits := by
  simpa [SixDigits] using h

/-- The opacities of colours: a byte as a part of the largest one, or a number from zero to one. -/
inductive Opacity : Float → Prop
  | byte {n : Nat} (bound : n ≤ 255) : Opacity (n.toFloat / 255.0)
  | number {x : Float} (low : 0.0 ≤ x) (high : x ≤ 1.0) : Opacity x

def IsChannel (channel : Nat) (text : List Char) : Prop :=
  ∃ before digits after, text = before ++ (digits ++ after) ∧ (∀ c ∈ before, isBlank c = true) ∧
    (∀ c ∈ after, isBlank c = true) ∧ digits ≠ [] ∧ Decimal.digitsValue? 10 0 digits = some channel

/-- The texts of an opaque colour: two hexadecimal digits for each channel, or the channels in
decimal digits. -/
inductive Spells (red green blue : Nat) : List Char → Prop
  | digits {r₁ r₂ g₁ g₂ b₁ b₂ : Char} (isRed : Decimal.digitsValue? 16 0 [r₁, r₂] = some red)
      (isGreen : Decimal.digitsValue? 16 0 [g₁, g₂] = some green)
      (isBlue : Decimal.digitsValue? 16 0 [b₁, b₂] = some blue) :
      Spells red green blue ['#', r₁, r₂, g₁, g₂, b₁, b₂]
  | channels {name r g b : List Char}
      (isName : lowered name = "rgb(".toList ∨ lowered name = "rgba(".toList)
      (isRed : IsChannel red r) (isGreen : IsChannel green g) (isBlue : IsChannel blue b) :
      Spells red green blue (name ++ (r ++ [','] ++ (g ++ [','] ++ b)) ++ [')'])

section Digits

variable {c : Char} {digits : List Char}

theorem exists_of_isHexDigit (hex : isHexDigit c = true) : ∃ digit, Decimal.digitValue? 16 c = some digit :=
  Option.isSome_iff_exists.mp hex

theorem isHexDigit_toLower (c : Char) : isHexDigit c.toLower = isHexDigit c := by
  rw [isHexDigit, isHexDigit, Decimal.digitValue?_toLower]

theorem mem_of_digitChar {digit : Nat} (small : digit < 16) :
    digit.digitChar ∈ "0123456789abcdef".toList := by
  have table : ∀ n < 16, n.digitChar ∈ "0123456789abcdef".toList := by decide
  exact table digit small

theorem toLower_mem_of_isHexDigit (hex : isHexDigit c = true) : c.toLower ∈ "0123456789abcdef".toList := by
  obtain ⟨digit, read⟩ := exists_of_isHexDigit hex
  obtain ⟨small, same⟩ := Decimal.toLower_of_digitValue? read
  rw [same]
  exact mem_of_digitChar small

theorem isHexDigit_of_mem (member : c ∈ "0123456789abcdef".toList) :
    isHexDigit c = true ∧ c.toLower = c := by
  have table : ("0123456789abcdef".toList.all fun c => isHexDigit c && c.toLower == c) = true := by decide
  have found := List.all_eq_true.mp table c member
  simpa only [Bool.and_eq_true, beq_iff_eq] using found

theorem isBlank_of_isHexDigit (hex : isHexDigit c = true) : isBlank c = false := by
  have table : ("0123456789abcdef".toList.all fun c => !isBlank c) = true := by decide
  rw [← Text.isBlank_toLower]
  simpa using List.all_eq_true.mp table _ (toLower_mem_of_isHexDigit hex)

theorem lowered_of_sixDigits (six : SixDigits digits) : lowered digits = digits := by
  rw [lowered, List.map_congr_left fun c member => (isHexDigit_of_mem (six.2 c member)).2, List.map_id']

theorem hex_of_sixDigits (six : SixDigits digits) : digits.all isHexDigit = true :=
  List.all_eq_true.mpr fun c member => (isHexDigit_of_mem (six.2 c member)).1

theorem all_lowered (digits : List Char) : (lowered digits).all isHexDigit = digits.all isHexDigit := by
  simp [lowered, Function.comp_def, isHexDigit_toLower]

theorem sixDigits_channels {red green blue : Nat} (isRed : red ≤ 255) (isGreen : green ≤ 255)
    (isBlue : blue ≤ 255) :
    SixDigits (channelDigits red ++ channelDigits green ++ channelDigits blue) := by
  have pair {channel : Nat} (bound : channel ≤ 255) :
      ∀ c ∈ channelDigits channel, c ∈ "0123456789abcdef".toList := by
    intro c member
    simp only [channelDigits, List.mem_cons, List.not_mem_nil, or_false] at member
    rcases member with rfl | rfl <;> exact mem_of_digitChar (by omega)
  refine ⟨rfl, ?_⟩
  exact List.forall_mem_append.mpr ⟨List.forall_mem_append.mpr ⟨pair isRed, pair isGreen⟩, pair isBlue⟩

theorem channelDigits_of_digitsValue? {a b : Char} {channel : Nat}
    (read : Decimal.digitsValue? 16 0 [a, b] = some channel) :
    channel ≤ 255 ∧ [a.toLower, b.toLower] = channelDigits channel := by
  cases first : Decimal.digitValue? 16 a with
  | none => simp [Decimal.digitsValue?, first] at read
  | some x =>
    cases second : Decimal.digitValue? 16 b with
    | none => simp [Decimal.digitsValue?, first, second] at read
    | some y =>
      simp only [Decimal.digitsValue?, first, second, Option.some.injEq] at read
      obtain ⟨smallFirst, sameFirst⟩ := Decimal.toLower_of_digitValue? first
      obtain ⟨smallSecond, sameSecond⟩ := Decimal.toLower_of_digitValue? second
      have high : channel / 16 = x := by omega
      have low : channel % 16 = y := by omega
      refine ⟨by omega, ?_⟩
      rw [channelDigits, high, low, sameFirst, sameSecond]

theorem digitsValue?_channelDigits {channel : Nat} (bound : channel ≤ 255) :
    Decimal.digitsValue? 16 0 (channelDigits channel) = some channel := by
  have high := @Decimal.digitValue?_digitChar 16 (channel / 16) (by omega) (by decide)
  have low := @Decimal.digitValue?_digitChar 16 (channel % 16) (by omega) (by decide)
  simp only [channelDigits, Decimal.digitsValue?, high, low, Option.some.injEq]
  omega

theorem exists_digitsValue? {a b : Char} (isFirst : isHexDigit a = true) (isSecond : isHexDigit b = true) :
    ∃ value ≤ 255, Decimal.digitsValue? 16 0 [a, b] = some value := by
  obtain ⟨x, first⟩ := exists_of_isHexDigit isFirst
  obtain ⟨y, second⟩ := exists_of_isHexDigit isSecond
  have read : Decimal.digitsValue? 16 0 [a, b] = some ((0 * 16 + x) * 16 + y) := by
    simp only [Decimal.digitsValue?, first, second]
  exact ⟨_, (channelDigits_of_digitsValue? read).1, read⟩

end Digits

section Bytes

theorem utf8Size_of_isHexDigit {c : Char} (hex : isHexDigit c = true) : c.utf8Size = 1 := by
  obtain ⟨digit, read⟩ := exists_of_isHexDigit hex
  have ascii := Decimal.toNat_of_digitValue? read
  rw [Char.utf8Size_eq_one_iff, UInt32.le_iff_toNat_le]
  change c.toNat ≤ 127
  omega

theorem eq_of_length_six {digits : List Char} (six : digits.length = 6) :
    ∃ r₁ r₂ g₁ g₂ b₁ b₂, digits = [r₁, r₂, g₁, g₂, b₁, b₂] := by
  rcases digits with _ | ⟨r₁, _ | ⟨r₂, _ | ⟨g₁, _ | ⟨g₂, _ | ⟨b₁, _ | ⟨b₂, _ | ⟨more, rest⟩⟩⟩⟩⟩⟩⟩
  all_goals simp at six
  exact ⟨r₁, r₂, g₁, g₂, b₁, b₂, rfl⟩

variable {digits : List Char} (hex : digits.all isHexDigit = true)

include hex

theorem utf8Len_of_hex : String.utf8Len digits = digits.length := by
  rw [List.all_eq_true] at hex
  induction digits with
  | nil => rfl
  | cons c digits ih =>
    rw [List.forall_mem_cons] at hex
    rw [String.utf8Len_cons, utf8Size_of_isHexDigit hex.1, ih hex.2, List.length_cons]

theorem size_take {offset : Nat} (bound : offset ≤ digits.length) :
    (String.ofList (digits.take offset)).utf8ByteSize = offset := by
  have part : (digits.take offset).all isHexDigit = true := by
    rw [List.all_eq_true] at hex ⊢
    exact fun c member => hex c (List.mem_of_mem_take member)
  rw [String.utf8ByteSize_ofList, utf8Len_of_hex part, List.length_take, Nat.min_eq_left bound]

theorem isValid_of_hex {offset : Nat} (bound : offset ≤ digits.length) :
    (⟨offset⟩ : String.Pos.Raw).IsValid (String.ofList digits) := by
  rw [String.Pos.Raw.isValid_iff_exists_append]
  refine ⟨String.ofList (digits.take offset), String.ofList (digits.drop offset), ?_, ?_⟩
  · rw [← String.ofList_append, List.take_append_drop]
  · rw [String.Pos.Raw.ext_iff, String.byteIdx_rawEndPos, size_take hex bound]

theorem readHex?_three (three : digits.length = 3) :
    readHex? digits = some (opaqueColor (digits.flatMap fun c => [c, c])) := by
  obtain ⟨r, g, b, rfl⟩ := List.length_eq_three.mp three
  unfold readHex?
  rw [if_pos hex]
  rfl

theorem readHex?_six (six : digits.length = 6) : readHex? digits = some (opaqueColor digits) := by
  obtain ⟨r₁, r₂, g₁, g₂, b₁, b₂, rfl⟩ := eq_of_length_six six
  unfold readHex?
  rw [if_pos hex]

theorem readHex?_eight (eight : digits.length = 8) :
    ∃ alpha ≤ 255, Decimal.digitsValue? 16 0 (digits.drop 6) = some alpha ∧
      readHex? digits = some (withAlpha (digits.take 6) (alpha.toFloat / 255.0)) := by
  have back : (digits.drop 6).length = 2 := by rw [List.length_drop, eight]
  obtain ⟨a₁, a₂, last⟩ := List.length_eq_two.mp back
  have inside : ∀ c ∈ [a₁, a₂], isHexDigit c = true := by
    intro c member
    rw [← last] at member
    exact List.all_eq_true.mp hex c (List.mem_of_mem_drop member)
  obtain ⟨alpha, bound, value⟩ := exists_digitsValue? (inside a₁ (by simp)) (inside a₂ (by simp))
  refine ⟨alpha, bound, last ▸ value, ?_⟩
  have front : (digits.take 6).length = 6 := by
    rw [List.length_take, eight]
    rfl
  obtain ⟨r₁, r₂, g₁, g₂, b₁, b₂, first⟩ := eq_of_length_six front
  have whole : digits = [r₁, r₂, g₁, g₂, b₁, b₂, a₁, a₂] := by
    rw [← List.take_append_drop 6 digits, first, last]
    rfl
  rw [first]
  subst whole
  unfold readHex?
  rw [if_pos hex]
  simp only [value, Option.map_some]

theorem readHex?_other (three : digits.length ≠ 3) (six : digits.length ≠ 6) (eight : digits.length ≠ 8) :
    readHex? digits = none := by
  unfold readHex?
  rw [if_pos hex]
  split
  · exact absurd rfl three
  · exact absurd rfl six
  · exact absurd rfl eight
  · rfl

end Bytes

section Reading

variable {value color : String}

def IsNormal (color : String) : Prop :=
  ∃ digits, SixDigits digits ∧
    (color = opaqueColor digits ∨ ∃ alpha, Opacity alpha ∧ color = withAlpha digits alpha)

theorem isNormal_readHex? {digits : List Char} (h : readHex? (lowered digits) = some color) :
    IsNormal color := by
  by_cases hex : (lowered digits).all isHexDigit = true
  · have small : ∀ c ∈ lowered digits, c ∈ "0123456789abcdef".toList := by
      intro c member
      obtain ⟨d, isDigit, rfl⟩ := List.mem_map.mp member
      rw [all_lowered, List.all_eq_true] at hex
      exact toLower_mem_of_isHexDigit (hex d isDigit)
    by_cases three : (lowered digits).length = 3
    · rw [readHex?_three hex three, Option.some.injEq] at h
      refine ⟨_, ⟨?_, ?_⟩, .inl h.symm⟩
      · simp [List.length_flatMap, three]
      · simpa [List.mem_flatMap] using small
    by_cases six : (lowered digits).length = 6
    · rw [readHex?_six hex six, Option.some.injEq] at h
      exact ⟨_, ⟨six, small⟩, .inl h.symm⟩
    by_cases eight : (lowered digits).length = 8
    · obtain ⟨alpha, bound, _, read⟩ := readHex?_eight hex eight
      rw [read, Option.some.injEq] at h
      refine ⟨_, ⟨?_, ?_⟩, .inr ⟨_, .byte bound, h.symm⟩⟩
      · rw [List.length_take, eight]
        rfl
      · exact fun c member => small c (List.mem_of_mem_take member)
    · rw [readHex?_other hex three six eight] at h
      cases h
  · unfold readHex? at h
    rw [if_neg hex] at h
    cases h

theorem readChannel_ok {text digits : List Char} (h : readChannel text = .ok digits) :
    ∃ channel ≤ 255, digits = channelDigits channel := by
  unfold readChannel at h
  split at h
  · rename_i channel found
    cases h
    exact ⟨channel, Decimal.readNat?_le found, rfl⟩
  · cases h

theorem readAlpha_ok {text : List Char} {alpha : Float} (h : readAlpha text = .ok alpha) :
    Opacity alpha := by
  unfold readAlpha at h
  split at h
  · split at h
    · rename_i inside
      cases h
      simp only [Bool.and_eq_true, decide_eq_true_eq] at inside
      exact .number inside.1 inside.2
    · cases h
  · cases h

theorem isNormal_readComponents {parts : List (List Char)} (h : readComponents value parts = .ok color) :
    IsNormal color := by
  unfold readComponents at h
  split at h
  · obtain ⟨red, isRed, h⟩ := ok_of_bind h
    obtain ⟨green, isGreen, h⟩ := ok_of_bind h
    obtain ⟨blue, isBlue, done⟩ := ok_of_bind h
    cases done
    obtain ⟨r, boundRed, rfl⟩ := readChannel_ok isRed
    obtain ⟨g, boundGreen, rfl⟩ := readChannel_ok isGreen
    obtain ⟨b, boundBlue, rfl⟩ := readChannel_ok isBlue
    exact ⟨_, sixDigits_channels boundRed boundGreen boundBlue, .inl rfl⟩
  · obtain ⟨red, isRed, h⟩ := ok_of_bind h
    obtain ⟨green, isGreen, h⟩ := ok_of_bind h
    obtain ⟨blue, isBlue, h⟩ := ok_of_bind h
    obtain ⟨alpha, isAlpha, done⟩ := ok_of_bind h
    cases done
    obtain ⟨r, boundRed, rfl⟩ := readChannel_ok isRed
    obtain ⟨g, boundGreen, rfl⟩ := readChannel_ok isGreen
    obtain ⟨b, boundBlue, rfl⟩ := readChannel_ok isBlue
    exact ⟨_, sixDigits_channels boundRed boundGreen boundBlue, .inr ⟨alpha, readAlpha_ok isAlpha, rfl⟩⟩
  · cases h

theorem isNormal_named : ∀ entry ∈ named, IsNormal entry.2 := by
  have table : (named.all fun entry => entry.2 == "#000000(0)" ||
      (entry.2 == opaqueColor (entry.2.toList.drop 1) && ((entry.2.toList.drop 1).length == 6 &&
        (entry.2.toList.drop 1).all ("0123456789abcdef".toList.contains ·)))) = true := by decide
  have clear : "#000000(0)" = withAlpha "000000".toList 0.0 := by decide +kernel
  intro entry member
  have found := List.all_eq_true.mp table entry member
  rw [Bool.or_eq_true, Bool.and_eq_true, beq_iff_eq, beq_iff_eq] at found
  rcases found with same | ⟨same, six⟩
  · rw [same, clear]
    exact ⟨_, sixDigits_of_all (by decide), .inr ⟨0.0, .number (by decide +kernel) (by decide +kernel), rfl⟩⟩
  · exact ⟨_, sixDigits_of_all six, .inl same⟩

theorem isNormal_read (h : read value = .ok color) : IsNormal color := by
  unfold read at h
  simp only at h
  split at h
  · rename_i color found
    cases h
    exact isNormal_named _ (mem_of_lookup found)
  · rename_i digits none isHex
    obtain ⟨_, given, _, _, rfl⟩ := List.map_eq_cons_iff.mp isHex
    split at h
    · rename_i read
      cases h
      exact isNormal_readHex? read
    · cases h
  · split at h
    · exact isNormal_readComponents h
    · cases h

theorem lookup_named {text : List Char} {c : Char} (member : c ∈ text) (other : c.isAlpha = false) :
    named.lookup (String.ofList text) = none := by
  cases found : named.lookup (String.ofList text) with
  | none => rfl
  | some color =>
    have table : ∀ entry ∈ named, entry.1.toList.all Char.isAlpha = true := by decide
    have letters := table _ (mem_of_lookup found)
    rw [String.toList_ofList, List.all_eq_true] at letters
    rw [letters c member] at other
    cases other

theorem read_hex {digits : List Char} (hex : digits.all isHexDigit = true)
    (h : readHex? (lowered digits) = some color) : read (String.ofList ('#' :: digits)) = .ok color := by
  have word : Text.IsWord ('#' :: digits) := by
    refine ⟨by simp, List.forall_mem_cons.mpr ⟨by decide, ?_⟩⟩
    exact fun c member => isBlank_of_isHexDigit (List.all_eq_true.mp hex c member)
  have text : lowered ('#' :: digits) = '#' :: lowered digits := rfl
  have none := @lookup_named ('#' :: lowered digits) '#' (by simp) (by decide)
  unfold read
  simp only [String.toList_ofList, Text.trim_of_isWord word, text, none, h]

theorem toList_opaqueColor (digits : List Char) : (opaqueColor digits).toList = '#' :: digits := by
  simp [opaqueColor]

theorem read_opaqueColor {digits : List Char} (six : SixDigits digits) :
    read (opaqueColor digits) = .ok (opaqueColor digits) := by
  have hex := hex_of_sixDigits six
  have found : readHex? (lowered digits) = some (opaqueColor digits) := by
    rw [lowered_of_sixDigits six]
    exact readHex?_six hex six.1
  have read := read_hex hex found
  rwa [← toList_opaqueColor, String.ofList_toList] at read

end Reading

section Channels

variable {channel red green blue : Nat} {text name r g b : List Char}

theorem mem_of_isChannel (isChannel : IsChannel channel text) :
    ∀ c ∈ text, isBlank c = true ∨ c.isDigit = true := by
  obtain ⟨before, digits, after, rfl, isBefore, isAfter, _, value⟩ := isChannel
  have decimal := (Decimal.digitsValue?_ten_iff.mp value).1
  rw [List.forall_mem_append, List.forall_mem_append]
  exact ⟨fun c member => .inl (isBefore c member), fun c member => .inr (decimal c member),
    fun c member => .inl (isAfter c member)⟩

theorem toLower_of_blank_or_digit {c : Char} (h : isBlank c = true ∨ c.isDigit = true) :
    c.toLower = c ∧ c ≠ ',' := by
  have blanks : ∀ n ∈ Text.blankCodes, (Char.ofNat n).toLower = Char.ofNat n ∧ Char.ofNat n ≠ ',' := by
    decide +kernel
  have digits : ∀ n ∈ List.range 58, 48 ≤ n → (Char.ofNat n).toLower = Char.ofNat n ∧ Char.ofNat n ≠ ',' := by
    decide +kernel
  rw [← Char.ofNat_toNat c]
  rcases h with blank | digit
  · exact blanks _ (Text.toNat_mem_blankCodes blank)
  · have range : 48 ≤ c.toNat ∧ c.toNat ≤ 57 := Char.isDigit_iff_toNat.mp digit
    exact digits _ (List.mem_range.mpr (by omega)) range.1

theorem lowered_of_isChannel (isChannel : IsChannel channel text) : lowered text = text := by
  have same : ∀ c ∈ text, c.toLower = c := fun c member =>
    (toLower_of_blank_or_digit (mem_of_isChannel isChannel c member)).1
  rw [lowered, List.map_congr_left same, List.map_id']

theorem readChannel_trim (isChannel : IsChannel channel text) (bound : channel ≤ 255) :
    readChannel (Text.trim text) = .ok (channelDigits channel) := by
  obtain ⟨before, digits, after, rfl, isBefore, isAfter, filled, value⟩ := isChannel
  have solid : ∀ c ∈ digits, isBlank c = false := by
    intro c member
    have table : ∀ n ∈ Text.blankCodes, (Char.ofNat n).isDigit = false := by decide
    by_contra blank
    have other := table _ (Text.toNat_mem_blankCodes (Bool.of_not_eq_false blank))
    rw [Char.ofNat_toNat, (Decimal.digitsValue?_ten_iff.mp value).1 c member] at other
    cases other
  have read := Decimal.readNat?_eq (by decide) filled value (show channel ≤ Decimal.byteLimit from bound)
  have head : Stops isBlank digits := fun c first => solid c (List.mem_of_mem_head? first)
  have last : Stops isBlank digits.reverse := fun c first =>
    solid c (List.mem_reverse.mp (List.mem_of_mem_head? first))
  rw [Text.trim_append isBefore isAfter head last, readChannel, read]

theorem components?_append (isName : name = "rgb(".toList ∨ name = "rgba(".toList) (inner : List Char) :
    components? (name ++ inner ++ [')']) = some inner := by
  rw [List.append_assoc]
  rcases isName with rfl | rfl
  · exact Text.beforeEnd?_append inner [')']
  · exact Text.beforeEnd?_append inner [')']

theorem read_channels (isName : lowered name = "rgb(".toList ∨ lowered name = "rgba(".toList)
    (isRed : IsChannel red r) (isGreen : IsChannel green g) (isBlue : IsChannel blue b)
    (boundRed : red ≤ 255) (boundGreen : green ≤ 255) (boundBlue : blue ≤ 255) :
    read (String.ofList (name ++ (r ++ [','] ++ (g ++ [','] ++ b)) ++ [')'])) =
      .ok (opaqueColor (channelDigits red ++ channelDigits green ++ channelDigits blue)) := by
  have small : lowered (name ++ (r ++ [','] ++ (g ++ [','] ++ b)) ++ [')']) =
      lowered name ++ Text.joinWith [','] [r, g, b] ++ [')'] := by
    simp only [Text.lowered_append, lowered_of_isChannel isRed, lowered_of_isChannel isGreen,
      lowered_of_isChannel isBlue]
    rfl
  have trimmed : Text.trim (name ++ (r ++ [','] ++ (g ++ [','] ++ b)) ++ [')']) =
      name ++ (r ++ [','] ++ (g ++ [','] ++ b)) ++ [')'] := by
    apply Text.trim_of_lowered
    · rw [small]
      rcases isName with same | same <;> rw [same] <;> exact Stops.cons (by decide) _
    · rw [small, List.reverse_append]
      exact Stops.cons (by decide) _
  have parts : Text.splitWhere (· == ',') (Text.joinWith [','] [r, g, b]) = [r, g, b] := by
    apply Text.splitWhere_joinWith (by rfl) (by simp)
    have apart {channel : Nat} {text : List Char} (isChannel : IsChannel channel text) :
        ∀ c ∈ text, (c == ',') = false := fun c member =>
      beq_false_of_ne (toLower_of_blank_or_digit (mem_of_isChannel isChannel c member)).2
    simp only [List.forall_mem_cons]
    exact ⟨apart isRed, apart isGreen, apart isBlue, by simp⟩
  have none := @lookup_named (lowered name ++ Text.joinWith [','] [r, g, b] ++ [')']) ')' (by simp) (by decide)
  have inner := components?_append isName (Text.joinWith [','] [r, g, b])
  -- the text is no name and no digits, as it starts with a letter and has a parenthesis
  obtain ⟨more, whole⟩ : ∃ more, lowered name ++ Text.joinWith [','] [r, g, b] ++ [')'] = 'r' :: more := by
    rcases isName with same | same <;> rw [same] <;> exact ⟨_, rfl⟩
  rw [whole] at none inner
  unfold read
  simp only [String.toList_ofList, trimmed, small, whole, none, inner, parts, List.map_cons, List.map_nil]
  simp only [readComponents, readChannel_trim isRed boundRed, readChannel_trim isGreen boundGreen,
    readChannel_trim isBlue boundBlue, ok_bind]
  rfl

theorem Spells.read_eq (spells : Spells red green blue text) (boundRed : red ≤ 255) (boundGreen : green ≤ 255)
    (boundBlue : blue ≤ 255) : read (String.ofList text) =
      .ok (opaqueColor (channelDigits red ++ channelDigits green ++ channelDigits blue)) := by
  cases spells with
  | @digits r₁ r₂ g₁ g₂ b₁ b₂ isRed isGreen isBlue =>
    have six := sixDigits_channels boundRed boundGreen boundBlue
    have small : lowered [r₁, r₂, g₁, g₂, b₁, b₂] =
        channelDigits red ++ channelDigits green ++ channelDigits blue := by
      rw [← (channelDigits_of_digitsValue? isRed).2, ← (channelDigits_of_digitsValue? isGreen).2,
        ← (channelDigits_of_digitsValue? isBlue).2]
      rfl
    apply read_hex
    · rw [← all_lowered, small]
      exact hex_of_sixDigits six
    · rw [small]
      exact readHex?_six (hex_of_sixDigits six) six.1
  | channels isName isRed isGreen isBlue =>
    exact read_channels isName isRed isGreen isBlue boundRed boundGreen boundBlue

theorem spells_opaqueColor (boundRed : red ≤ 255) (boundGreen : green ≤ 255) (boundBlue : blue ≤ 255) :
    Spells red green blue
      (opaqueColor (channelDigits red ++ channelDigits green ++ channelDigits blue)).toList := by
  rw [toList_opaqueColor]
  exact .digits (digitsValue?_channelDigits boundRed) (digitsValue?_channelDigits boundGreen)
    (digitsValue?_channelDigits boundBlue)

theorem read_short {r g b : Char} (isRed : isHexDigit r = true) (isGreen : isHexDigit g = true)
    (isBlue : isHexDigit b = true) :
    ∃ color, read (String.ofList ['#', r, g, b]) = .ok color ∧
      read (String.ofList ['#', r, r, g, g, b, b]) = .ok color := by
  have three : [r, g, b].all isHexDigit = true := by simp [isRed, isGreen, isBlue]
  have six : [r, r, g, g, b, b].all isHexDigit = true := by simp [isRed, isGreen, isBlue]
  refine ⟨opaqueColor (lowered [r, r, g, g, b, b]), read_hex three ?_, read_hex six ?_⟩
  · exact readHex?_three (by rwa [all_lowered]) rfl
  · exact readHex?_six (by rwa [all_lowered]) rfl

/-- The components of a list are counted before they are read: the first three are channels, the
fourth is an opacity. -/
theorem readComponents_eq (value : String) (parts : List (List Char)) :
    readComponents value parts =
      if parts.length = 3 ∨ parts.length = 4 then do
        let channels ← (parts.take 3).mapM readChannel
        parts[3]?.elim (pure (opaqueColor channels.flatten)) fun alpha => do
          return withAlpha channels.flatten (← readAlpha alpha)
      else .error (.componentCount value) := by
  rcases parts with _ | ⟨r, _ | ⟨g, _ | ⟨b, _ | ⟨alpha, _ | ⟨more, rest⟩⟩⟩⟩⟩
  · rfl
  · rfl
  · rfl
  · rw [if_pos (by simp)]
    simp [readComponents]
  · rw [if_pos (by simp)]
    simp [readComponents]
  · rw [if_neg (by simp)]
    rfl

end Channels

/-- Colours are given one form. Six digits in small letters are all there is to an opaque one, which
is read as itself and is what every text of its channels gives. Digits are cut only where their bytes
allow it, and components are read only where there are enough of them. -/
theorem colors_normalized :
    (∀ value color, read value = .ok color → ∃ digits, SixDigits digits ∧
      (color = "#" ++ String.ofList digits ∧ read color = .ok color ∨
        ∃ alpha, Opacity alpha ∧
          color = "#" ++ String.ofList digits ++ "(" ++ Decimal.shortest (hundredths alpha) ++ ")")) ∧
    (∀ red green blue, red ≤ 255 → green ≤ 255 → blue ≤ 255 →
      ∃ digits, SixDigits digits ∧ Spells red green blue ('#' :: digits) ∧
        ∀ text : String, Spells red green blue text.toList → read text = .ok ("#" ++ String.ofList digits)) ∧
    (∀ r g b, isHexDigit r = true → isHexDigit g = true → isHexDigit b = true →
      ∃ color, read (String.ofList ['#', r, g, b]) = .ok color ∧
        read (String.ofList ['#', r, r, g, g, b, b]) = .ok color) ∧
    (∀ digits, digits.all isHexDigit = true →
      let text := String.ofList digits
      (∀ offset ≤ text.utf8ByteSize, (⟨offset⟩ : String.Pos.Raw).IsValid text ∧
        (String.ofList (digits.take offset)).utf8ByteSize = offset) ∧
      (text.utf8ByteSize = 3 → readHex? digits = some (opaqueColor (digits.flatMap fun c => [c, c]))) ∧
      (text.utf8ByteSize = 6 → readHex? digits = some (opaqueColor digits)) ∧
      (text.utf8ByteSize = 8 → ∃ alpha ≤ 255, Decimal.digitsValue? 16 0 (digits.drop 6) = some alpha ∧
        readHex? digits = some (withAlpha (digits.take 6) (alpha.toFloat / 255.0))) ∧
      (text.utf8ByteSize ∉ [3, 6, 8] → readHex? digits = none)) ∧
    (∀ value parts, readComponents value parts =
      if parts.length = 3 ∨ parts.length = 4 then do
        let channels ← (parts.take 3).mapM readChannel
        parts[3]?.elim (pure (opaqueColor channels.flatten)) fun alpha => do
          return withAlpha channels.flatten (← readAlpha alpha)
      else .error (.componentCount value)) := by
  refine ⟨?_, ?_, fun r g b => read_short, ?_, readComponents_eq⟩
  · intro value color h
    obtain ⟨digits, six, rfl | ⟨alpha, opacity, rfl⟩⟩ := isNormal_read h
    · exact ⟨digits, six, .inl ⟨rfl, read_opaqueColor six⟩⟩
    · exact ⟨digits, six, .inr ⟨alpha, opacity, rfl⟩⟩
  · intro red green blue isRed isGreen isBlue
    refine ⟨_, sixDigits_channels isRed isGreen isBlue, ?_, ?_⟩
    · rw [← toList_opaqueColor]
      exact spells_opaqueColor isRed isGreen isBlue
    · intro text spells
      have same := spells.read_eq isRed isGreen isBlue
      rwa [String.ofList_toList] at same
  · intro digits hex text
    have size : text.utf8ByteSize = digits.length := by
      rw [String.utf8ByteSize_ofList, utf8Len_of_hex hex]
    rw [size]
    refine ⟨?_, readHex?_three hex, readHex?_six hex, readHex?_eight hex, ?_⟩
    · exact fun offset bound => ⟨isValid_of_hex hex bound, size_take hex bound⟩
    · intro other
      simp only [List.mem_cons, List.not_mem_nil, or_false, not_or] at other
      exact readHex?_other hex other.1 other.2.1 other.2.2

/-- A colour as a list of channels with blanks and a leading zero, and in digits with capitals; three
digits for six; and eight digits, which are cut behind the sixth. -/
theorem colors_normalized_list :
    (read "RGBa( 016,255 ,\t0)" = read "#10FF00" ∧
      ∃ digits, SixDigits digits ∧ read "#10FF00" = .ok ("#" ++ String.ofList digits)) ∧
    (∃ color, read "#1fA" = .ok color ∧ read "#11ffAA" = .ok color) ∧
    ((⟨6⟩ : String.Pos.Raw).IsValid "10ff0080" ∧
      ∃ alpha ≤ 255, Decimal.digitsValue? 16 0 "80".toList = some alpha ∧
        readHex? "10ff0080".toList = some (withAlpha "10ff00".toList (alpha.toFloat / 255.0))) := by
  have list : Spells 16 255 0 "RGBa( 016,255 ,\t0)".toList := by
    refine @Spells.channels 16 255 0 "RGBa(".toList " 016".toList "255 ".toList "\t0".toList (by decide) ?_ ?_ ?_
    · exact ⟨[' '], ['0', '1', '6'], [], rfl, List.all_eq_true.mp (by decide), by simp, by simp, by decide⟩
    · exact ⟨[], ['2', '5', '5'], [' '], rfl, by simp, List.all_eq_true.mp (by decide), by simp, by decide⟩
    · exact ⟨['\t'], ['0'], [], rfl, List.all_eq_true.mp (by decide), by simp, by simp, by decide⟩
  have capitals : Spells 16 255 0 "#10FF00".toList :=
    @Spells.digits 16 255 0 '1' '0' 'F' 'F' '0' '0' (by decide) (by decide) (by decide)
  obtain ⟨_, channels, short, sliced, _⟩ := colors_normalized
  obtain ⟨digits, six, _, same⟩ := channels 16 255 0 (by decide) (by decide) (by decide)
  obtain ⟨cuts, _, _, eight, _⟩ := sliced "10ff0080".toList (by decide)
  refine ⟨⟨(same _ list).trans (same _ capitals).symm, digits, six, same _ capitals⟩, ?_, ?_, ?_⟩
  · exact short '1' 'f' 'A' (by decide) (by decide) (by decide)
  · exact (cuts 6 (by decide)).1
  · exact eight (by decide)

end Color

end UiMarkup
