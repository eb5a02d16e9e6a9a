import UiMarkup.Proofs.Component.Numbers
import UiMarkup.Proofs.Decimal.Digits

namespace UiMarkup.Raster

/-- A text for a number of cells: after trimming, decimal digits with an optional plus sign before
them and any number of units behind them. The number is positive and has at most thirty-two bits. -/
def AsksCells (text : String) (cells : Nat) : Prop :=
  ∃ sign digits units,
    Text.trim text.toList = sign ++ digits ++ (List.replicate units ['p', 'x']).flatten ∧
    (sign = [] ∨ sign = ['+']) ∧ digits ≠ [] ∧ (∀ c ∈ digits, c.isDigit = true) ∧
    Nat.ofDigitChars 10 digits 0 = cells ∧ 0 < cells ∧ cells ≤ 4294967295

/-- `side` is the whole part of `value * part / whole`, but at least one. The two bounds leave no
quotient by zero. -/
def InProportion (value whole part side : Nat) : Prop :=
  ∃ quotient, quotient * whole ≤ value * part ∧ value * part < (quotient + 1) * whole ∧
    side = max 1 quotient

/-- The sides of the grid in unbounded numbers, for a picture with sides that are not zero. -/
inductive Fits (attributes : Fields String) (nativeWidth nativeHeight : Nat) : Nat → Nat → Prop
  | both {left right : String} {width height : Nat}
      (isWidth : Fields.value? attributes "width" = some left) (asksWidth : AsksCells left width)
      (isHeight : Fields.value? attributes "height" = some right) (asksHeight : AsksCells right height) :
      Fits attributes nativeWidth nativeHeight width height
  | width {text : String} {width height : Nat} (isWidth : Fields.value? attributes "width" = some text)
      (asks : AsksCells text width) (noHeight : Fields.value? attributes "height" = none)
      (scaled : InProportion width nativeWidth nativeHeight height) :
      Fits attributes nativeWidth nativeHeight width height
  | height {text : String} {width height : Nat} (noWidth : Fields.value? attributes "width" = none)
      (isHeight : Fields.value? attributes "height" = some text) (asks : AsksCells text height)
      (scaled : InProportion height nativeHeight nativeWidth width) :
      Fits attributes nativeWidth nativeHeight width height
  | native (noWidth : Fields.value? attributes "width" = none)
      (noHeight : Fields.value? attributes "height" = none)
      (small : max nativeWidth nativeHeight ≤ 64) :
      Fits attributes nativeWidth nativeHeight nativeWidth nativeHeight
  | reduced {width height : Nat} (noWidth : Fields.value? attributes "width" = none)
      (noHeight : Fields.value? attributes "height" = none)
      (large : 64 < max nativeWidth nativeHeight)
      (scaledWidth : InProportion 64 (max nativeWidth nativeHeight) nativeWidth width)
      (scaledHeight : InProportion 64 (max nativeWidth nativeHeight) nativeHeight height) :
      Fits attributes nativeWidth nativeHeight width height

section Units

theorem exists_dropUnits (steps : Nat) (text : List Char) :
    ∃ units, text = dropUnits steps text ++ (List.replicate units ['p', 'x']).flatten := by
  induction steps generalizing text with
  | zero => exact ⟨0, by simp [dropUnits]⟩
  | succ steps ih =>
    unfold dropUnits
    split
    · rename_i shorter found
      obtain ⟨units, whole⟩ := ih shorter
      refine ⟨units + 1, ?_⟩
      rw [List.replicate_succ', List.flatten_concat, ← List.append_assoc, ← whole]
      exact Text.eq_of_beforeEnd? found
    · exact ⟨0, by simp⟩

theorem dropUnits_append {front digits : List Char} (filled : digits ≠ [])
    (all : ∀ c ∈ digits, c.isDigit = true) {units steps : Nat} (enough : units ≤ steps) :
    dropUnits steps (front ++ digits ++ (List.replicate units ['p', 'x']).flatten) = front ++ digits := by
  induction units generalizing steps with
  | zero =>
    have bare : Text.beforeEnd? ['p', 'x'] (front ++ digits) = none := by
      rw [Option.eq_none_iff_forall_ne_some]
      intro shorter found
      have ends := congrArg List.getLast? (Text.eq_of_beforeEnd? found)
      rw [List.getLast?_append, List.getLast?_append, List.getLast?_eq_some_getLast filled] at ends
      have last : digits.getLast filled = 'x' := Option.some.inj ends
      have isDigit := all _ (List.getLast_mem filled)
      rw [last] at isDigit
      exact absurd isDigit (by decide)
    cases steps <;> simp [dropUnits, bare]
  | succ units ih =>
    cases steps with
    | zero => omega
    | succ steps =>
      rw [List.replicate_succ', List.flatten_concat, ← List.append_assoc, dropUnits,
        Text.beforeEnd?_append]
      exact ih (by omega)

end Units

section Asking

variable {text name : String} {attributes : Fields String} {cells : Nat}

theorem readCells?_eq_some_iff : readCells? text = some cells ↔ AsksCells text cells := by
  unfold readCells?
  simp only [Option.filter_eq_some_iff, Decimal.readNat?_ten_iff, decide_eq_true_eq]
  constructor
  · rintro ⟨⟨sign, digits, core, isSign, filled, all, sum, bound⟩, positive⟩
    obtain ⟨units, whole⟩ := exists_dropUnits (Text.trim text.toList).length (Text.trim text.toList)
    rw [core] at whole
    exact ⟨sign, digits, units, whole, isSign, filled, all, sum, positive, bound⟩
  · rintro ⟨sign, digits, units, whole, isSign, filled, all, sum, positive, bound⟩
    have enough : units ≤ (Text.trim text.toList).length := by
      rw [whole]
      simp
      omega
    refine ⟨⟨sign, digits, ?_, isSign, filled, all, sum, bound⟩, positive⟩
    rw [whole] at enough ⊢
    exact dropUnits_append filled all enough

theorem AsksCells.bound (asks : AsksCells text cells) : cells ≤ Decimal.wordLimit := by
  obtain ⟨_, _, _, _, _, _, _, _, _, bound⟩ := asks
  exact bound

theorem dimension_eq_none_iff :
    dimension attributes name = .ok none ↔ Fields.value? attributes name = none := by
  unfold dimension
  split
  · simp_all
  · rename_i text given
    simp only [given, reduceCtorEq, iff_false]
    split <;> simp

theorem dimension_eq_some_iff :
    dimension attributes name = .ok (some cells) ↔
      ∃ text, Fields.value? attributes name = some text ∧ AsksCells text cells := by
  unfold dimension
  split
  · rename_i absent
    simp [absent]
  · rename_i text given
    simp only [given, Option.some.injEq, exists_eq_left', ← readCells?_eq_some_iff]
    split
    · rename_i read
      simp [read]
    · rename_i unread
      simp [unread]

theorem dimension_eq_error_iff :
    (∃ fault, dimension attributes name = .error fault) ↔
      ∃ text, Fields.value? attributes name = some text ∧ ∀ cells, ¬ AsksCells text cells := by
  unfold dimension
  split
  · rename_i absent
    simp [absent]
  · rename_i text given
    simp only [given, Option.some.injEq, exists_eq_left', ← readCells?_eq_some_iff]
    split
    · rename_i read
      simp [read]
    · rename_i unread
      simp [unread]

end Asking

section Proportions

variable {value whole part side : Nat}

theorem inProportion_quotient (positive : 0 < whole) (value part : Nat) :
    InProportion value whole part (max 1 (value * part / whole)) := by
  refine ⟨value * part / whole, Nat.div_mul_le_self _ _, ?_, rfl⟩
  rw [Nat.mul_comm (_ + 1)]
  exact Nat.lt_mul_div_succ _ positive

theorem InProportion.eq_quotient (scaled : InProportion value whole part side) :
    side = max 1 (value * part / whole) := by
  obtain ⟨quotient, low, high, rfl⟩ := scaled
  have same : value * part / whole = quotient := Nat.div_eq_of_lt_le low high
  rw [same]

theorem InProportion.le_part (scaled : InProportion value whole part side) (filled : 0 < part)
    (smaller : value ≤ whole) : side ≤ part := by
  rw [scaled.eq_quotient]
  have bound : value * part / whole ≤ part := Nat.div_le_of_le_mul (Nat.mul_le_mul_right part smaller)
  omega

theorem InProportion.le_value (scaled : InProportion value whole part side) (filled : 0 < value)
    (smaller : part ≤ whole) : side ≤ value := by
  rw [scaled.eq_quotient]
  have bound : value * part / whole ≤ value := by
    apply Nat.div_le_of_le_mul
    rw [Nat.mul_comm whole]
    exact Nat.mul_le_mul_left value smaller
  omega

theorem InProportion.eq_value (scaled : InProportion value whole whole side) (filled : 0 < value)
    (positive : 0 < whole) : side = value := by
  rw [scaled.eq_quotient, Nat.mul_div_cancel value positive]
  omega

/-- With factors of thirty-two bits the product of sixty-four bits does not wrap, and what is lost is
only the excess of a result over thirty-two bits. -/
theorem proportional_of_inProportion (smallValue : value ≤ Decimal.wordLimit)
    (smallWhole : whole ≤ Decimal.wordLimit) (smallPart : part ≤ Decimal.wordLimit)
    (scaled : InProportion value whole part side) :
    proportional value whole part = min side Decimal.wordLimit := by
  have fits {n : Nat} (small : n ≤ Decimal.wordLimit) : n.toUInt64.toNat = n := by
    apply UInt64.toNat_ofNat_of_lt'
    exact Nat.lt_of_le_of_lt small (by decide)
  have product : (value.toUInt64 * part.toUInt64).toNat = value * part := by
    rw [UInt64.toNat_mul, fits smallValue, fits smallPart]
    apply Nat.mod_eq_of_lt
    exact Nat.lt_of_le_of_lt (Nat.mul_le_mul smallValue smallPart) (by decide)
  rw [proportional, UInt64.toNat_div, product, fits smallWhole, scaled.eq_quotient, Nat.max_comm]

end Proportions

section Fitting

variable {attributes : Fields String} {nativeWidth nativeHeight width height : Nat}

theorem exists_fits {wanted other : Option Nat} (isWidth : dimension attributes "width" = .ok wanted)
    (isHeight : dimension attributes "height" = .ok other) (wide : 0 < nativeWidth)
    (high : 0 < nativeHeight) : ∃ width height, Fits attributes nativeWidth nativeHeight width height := by
  cases wanted with
  | some width =>
    obtain ⟨left, given, asks⟩ := dimension_eq_some_iff.mp isWidth
    cases other with
    | some height =>
      obtain ⟨right, givenHeight, asksHeight⟩ := dimension_eq_some_iff.mp isHeight
      exact ⟨width, height, .both given asks givenHeight asksHeight⟩
    | none =>
      have absent := dimension_eq_none_iff.mp isHeight
      exact ⟨width, _, .width given asks absent (inProportion_quotient wide _ _)⟩
  | none =>
    have noWidth := dimension_eq_none_iff.mp isWidth
    cases other with
    | some height =>
      obtain ⟨text, given, asks⟩ := dimension_eq_some_iff.mp isHeight
      exact ⟨_, height, .height noWidth given asks (inProportion_quotient high _ _)⟩
    | none =>
      have noHeight := dimension_eq_none_iff.mp isHeight
      by_cases small : max nativeWidth nativeHeight ≤ 64
      · exact ⟨_, _, .native noWidth noHeight small⟩
      · have positive : 0 < max nativeWidth nativeHeight := by omega
        exact ⟨_, _, .reduced noWidth noHeight (by omega) (inProportion_quotient positive _ _)
          (inProportion_quotient positive _ _)⟩

theorem fit_of_fits (fits : Fits attributes nativeWidth nativeHeight width height)
    (smallWidth : nativeWidth ≤ Decimal.wordLimit) (smallHeight : nativeHeight ≤ Decimal.wordLimit) :
    ∃ wanted other, dimension attributes "width" = .ok wanted ∧
      dimension attributes "height" = .ok other ∧
      fit wanted other nativeWidth nativeHeight =
        (min width Decimal.wordLimit, min height Decimal.wordLimit) := by
  cases fits with
  | both isWidth asksWidth isHeight asksHeight =>
    refine ⟨some width, some height, dimension_eq_some_iff.mpr ⟨_, isWidth, asksWidth⟩,
      dimension_eq_some_iff.mpr ⟨_, isHeight, asksHeight⟩, ?_⟩
    rw [fit, Nat.min_eq_left asksWidth.bound, Nat.min_eq_left asksHeight.bound]
  | width isWidth asks noHeight scaled =>
    refine ⟨some width, none, dimension_eq_some_iff.mpr ⟨_, isWidth, asks⟩,
      dimension_eq_none_iff.mpr noHeight, ?_⟩
    rw [fit, proportional_of_inProportion asks.bound smallWidth smallHeight scaled,
      Nat.min_eq_left asks.bound]
  | height noWidth isHeight asks scaled =>
    refine ⟨none, some height, dimension_eq_none_iff.mpr noWidth,
      dimension_eq_some_iff.mpr ⟨_, isHeight, asks⟩, ?_⟩
    rw [fit, proportional_of_inProportion asks.bound smallHeight smallWidth scaled,
      Nat.min_eq_left asks.bound]
  | native noWidth noHeight small =>
    refine ⟨none, none, dimension_eq_none_iff.mpr noWidth, dimension_eq_none_iff.mpr noHeight, ?_⟩
    have whole : fit none none nativeWidth nativeHeight = (nativeWidth, nativeHeight) := if_pos small
    rw [whole, Nat.min_eq_left smallWidth, Nat.min_eq_left smallHeight]
  | reduced noWidth noHeight large scaledWidth scaledHeight =>
    refine ⟨none, none, dimension_eq_none_iff.mpr noWidth, dimension_eq_none_iff.mpr noHeight, ?_⟩
    have longest : max nativeWidth nativeHeight ≤ Decimal.wordLimit := Nat.max_le.mpr ⟨smallWidth, smallHeight⟩
    have smaller : fit none none nativeWidth nativeHeight =
        (proportional 64 (max nativeWidth nativeHeight) nativeWidth,
          proportional 64 (max nativeWidth nativeHeight) nativeHeight) :=
      if_neg (Nat.not_le.mpr large)
    rw [smaller, proportional_of_inProportion (by decide) longest smallWidth scaledWidth,
      proportional_of_inProportion (by decide) longest smallHeight scaledHeight]

theorem Fits.native_bounds (fits : Fits attributes nativeWidth nativeHeight width height)
    (noWidth : Fields.value? attributes "width" = none)
    (noHeight : Fields.value? attributes "height" = none)
    (wide : 0 < nativeWidth) (high : 0 < nativeHeight) :
    max width height = min 64 (max nativeWidth nativeHeight) ∧ width ≤ nativeWidth ∧
      height ≤ nativeHeight := by
  cases fits with
  | both isWidth => simp [noWidth] at isWidth
  | width isWidth => simp [noWidth] at isWidth
  | height _ isHeight => simp [noHeight] at isHeight
  | native _ _ small => omega
  | reduced _ _ large scaledWidth scaledHeight =>
    have widthBound := scaledWidth.le_part wide (by omega)
    have heightBound := scaledHeight.le_part high (by omega)
    have widthLimit := scaledWidth.le_value (by decide) (Nat.le_max_left _ _)
    have heightLimit := scaledHeight.le_value (by decide) (Nat.le_max_right _ _)
    -- the longer side comes to the limit itself
    have reached : width = 64 ∨ height = 64 := by
      rcases Nat.le_total nativeHeight nativeWidth with order | order
      · rw [Nat.max_eq_left order] at scaledWidth
        exact .inl (scaledWidth.eq_value (by decide) wide)
      · rw [Nat.max_eq_right order] at scaledHeight
        exact .inr (scaledHeight.eq_value (by decide) high)
    omega

/-- Cutting the unbounded size to thirty-two bits changes neither what is accepted nor what it is. -/
theorem gridSize_of_fits (fits : Fits attributes (max nativeWidth 1) (max nativeHeight 1) width height)
    (smallWidth : nativeWidth ≤ Decimal.wordLimit) (smallHeight : nativeHeight ≤ Decimal.wordLimit) :
    gridSize attributes nativeWidth nativeHeight =
      if width ≤ 256 ∧ height ≤ 256 then .ok (width, height)
      else .error (.tooLarge (min width Decimal.wordLimit) (min height Decimal.wordLimit) sideLimit) := by
  have wide : max nativeWidth 1 ≤ Decimal.wordLimit := Nat.max_le.mpr ⟨smallWidth, by decide⟩
  have high : max nativeHeight 1 ≤ Decimal.wordLimit := Nat.max_le.mpr ⟨smallHeight, by decide⟩
  obtain ⟨wanted, other, isWidth, isHeight, size⟩ := fit_of_fits fits wide high
  have limit : 256 < Decimal.wordLimit := by decide
  have side : sideLimit = 256 := rfl
  rw [gridSize, isWidth, isHeight, ok_bind, ok_bind, size]
  by_cases inside : width ≤ 256 ∧ height ≤ 256
  · rw [if_pos inside, Nat.min_eq_left (by omega), Nat.min_eq_left (by omega)]
    exact if_neg (by omega)
  · rw [if_neg inside]
    exact if_pos (by omega)

theorem gridSize_of_unread {name : String} {fault : ImageFault} (member : name ∈ ["width", "height"])
    (unread : dimension attributes name = .error fault) :
    ∃ fault, gridSize attributes nativeWidth nativeHeight = .error fault := by
  simp only [List.mem_cons, List.not_mem_nil, or_false] at member
  unfold gridSize
  rcases member with rfl | rfl
  · rw [unread]
    exact ⟨fault, rfl⟩
  · rw [unread]
    cases dimension attributes "width" with
    | error earlier => exact ⟨earlier, rfl⟩
    | ok wanted => exact ⟨fault, rfl⟩

theorem unread_or_exists_fits (attributes : Fields String) (nativeWidth nativeHeight : Nat) :
    (∃ name ∈ ["width", "height"], ∃ fault, dimension attributes name = .error fault) ∨
      ∃ width height, Fits attributes (max nativeWidth 1) (max nativeHeight 1) width height := by
  cases isWidth : dimension attributes "width" with
  | error fault => exact .inl ⟨"width", by decide, fault, isWidth⟩
  | ok wanted =>
    cases isHeight : dimension attributes "height" with
    | error fault => exact .inl ⟨"height", by decide, fault, isHeight⟩
    | ok other => exact .inr (exists_fits isWidth isHeight (by omega) (by omega))

theorem gridSize_eq_ok_iff (smallWidth : nativeWidth ≤ Decimal.wordLimit)
    (smallHeight : nativeHeight ≤ Decimal.wordLimit) :
    gridSize attributes nativeWidth nativeHeight = .ok (width, height) ↔
      Fits attributes (max nativeWidth 1) (max nativeHeight 1) width height ∧ width ≤ 256 ∧
        height ≤ 256 := by
  constructor
  · intro accepted
    rcases unread_or_exists_fits attributes nativeWidth nativeHeight with
      ⟨name, member, fault, unread⟩ | ⟨wide, high, fits⟩
    · obtain ⟨_, failed⟩ := @gridSize_of_unread attributes nativeWidth nativeHeight name fault member unread
      rw [failed] at accepted
      cases accepted
    · rw [gridSize_of_fits fits smallWidth smallHeight] at accepted
      split at accepted
      · rename_i inside
        cases accepted
        exact ⟨fits, inside⟩
      · cases accepted
  · rintro ⟨fits, inside⟩
    rw [gridSize_of_fits fits smallWidth smallHeight, if_pos inside]

theorem gridSize_eq_error_iff (smallWidth : nativeWidth ≤ Decimal.wordLimit)
    (smallHeight : nativeHeight ≤ Decimal.wordLimit) :
    (∃ fault, gridSize attributes nativeWidth nativeHeight = .error fault) ↔
      (∃ name ∈ ["width", "height"], ∃ text, Fields.value? attributes name = some text ∧
        ∀ cells, ¬ AsksCells text cells) ∨
      ∃ width height, Fits attributes (max nativeWidth 1) (max nativeHeight 1) width height ∧
        (256 < width ∨ 256 < height) := by
  simp only [← dimension_eq_error_iff]
  constructor
  · rintro ⟨fault, failed⟩
    apply (unread_or_exists_fits attributes nativeWidth nativeHeight).imp_right
    rintro ⟨wide, high, fits⟩
    rw [gridSize_of_fits fits smallWidth smallHeight] at failed
    split at failed
    · cases failed
    · exact ⟨wide, high, fits, by omega⟩
  · rintro (⟨name, member, fault, unread⟩ | ⟨wide, high, fits, outside⟩)
    · exact gridSize_of_unread member unread
    · rw [gridSize_of_fits fits smallWidth smallHeight, if_neg (by omega)]
      exact ⟨_, rfl⟩

end Fitting

/-- Whether there is a grid, and how large it is, in unbounded numbers, for a picture whose sides
are any numbers of thirty-two bits. -/
theorem gridSize_exact (attributes : Fields String) (nativeWidth nativeHeight : UInt32) :
    let wide := max nativeWidth.toNat 1
    let high := max nativeHeight.toNat 1
    let grid := gridSize attributes nativeWidth.toNat nativeHeight.toNat
    (∀ width height, grid = .ok (width, height) ↔
      Fits attributes wide high width height ∧ width ≤ 256 ∧ height ≤ 256) ∧
    (∀ width height, grid = .ok (width, height) → 1 ≤ width ∧ 1 ≤ height) ∧
    (Fields.value? attributes "width" = none → Fields.value? attributes "height" = none →
      ∃ width height, grid = .ok (width, height) ∧ max width height = min 64 (max wide high) ∧
        width ≤ wide ∧ height ≤ high) ∧
    ((∃ fault, grid = .error fault) ↔
      (∃ name ∈ ["width", "height"], ∃ text, Fields.value? attributes name = some text ∧
        ∀ cells, ¬ AsksCells text cells) ∨
      ∃ width height, Fits attributes wide high width height ∧ (256 < width ∨ 256 < height)) := by
  intro wide high grid
  have smallWidth : nativeWidth.toNat ≤ Decimal.wordLimit := Nat.le_of_lt_succ nativeWidth.toNat_lt
  have smallHeight : nativeHeight.toNat ≤ Decimal.wordLimit := Nat.le_of_lt_succ nativeHeight.toNat_lt
  refine ⟨?_, ?_, ?_, gridSize_eq_error_iff smallWidth smallHeight⟩
  · intro width height
    exact gridSize_eq_ok_iff smallWidth smallHeight
  · intro width height accepted
    obtain ⟨⟨filledWidth, _⟩, filledHeight, _⟩ := gridSize_bounds accepted
    exact ⟨filledWidth, filledHeight⟩
  · intro noWidth noHeight
    obtain ⟨width, height, fits⟩ := @exists_fits attributes wide high none none
      (dimension_eq_none_iff.mpr noWidth) (dimension_eq_none_iff.mpr noHeight) (by omega) (by omega)
    have bounds := fits.native_bounds noWidth noHeight (by omega) (by omega)
    have inside : width ≤ 256 ∧ height ≤ 256 := by omega
    exact ⟨width, height, (gridSize_eq_ok_iff smallWidth smallHeight).mpr ⟨fits, inside⟩, bounds⟩

/-- A width with a unit, the widest picture, and a height of more than thirty-two bits. -/
theorem gridSize_exact_wide :
    Fits [("width", " +10px ")] 100 50 10 5 ∧
      (∃ width height, gridSize [] 4294967295 0 = .ok (width, height) ∧ max width height = 64) ∧
      ∃ fault, gridSize [("width", "200")] 10 4294967295 = .error fault := by
  refine ⟨?_, ?_, ?_⟩
  · obtain ⟨size, accepted, same⟩ := ok_of_toOption_map
      (show (gridSize [("width", " +10px ")] 100 50).toOption.map id = some (10, 5) by decide +kernel)
    obtain rfl : size = (10, 5) := same
    exact (((gridSize_exact [("width", " +10px ")] 100 50).1 10 5).mp accepted).1
  · obtain ⟨width, height, accepted, longest, _⟩ := (gridSize_exact [] 4294967295 0).2.2.1 rfl rfl
    exact ⟨width, height, accepted, longest⟩
  · have asks : AsksCells "200" 200 := readCells?_eq_some_iff.mp (by decide +kernel)
    have scaled : InProportion 200 10 4294967295 85899345900 := ⟨85899345900, by decide, by decide, rfl⟩
    exact (gridSize_exact [("width", "200")] 10 4294967295).2.2.2.mpr
      (.inr ⟨200, 85899345900, .width rfl asks rfl scaled, by decide⟩)

end UiMarkup.Raster
