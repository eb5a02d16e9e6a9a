import UiMarkup.Decimal.Real

namespace UiMarkup.Decimal

open Float.Model Float.Model.UnpackedFloat

def Boundless (x : Float) : Prop :=
  x.isInf = true ∧ 0.0 < x

inductive Above : UnpackedFloat → Prop
  | infinity : Above (.infinity .positive)
  | finite {mantissa : Nat} {exponent : Int} (positive : 0 < mantissa) :
      Above (.finite .positive mantissa exponent positive)

theorem above_of_pos {x : Float} (positive : 0.0 < x) : Above x.toModel.unpack := by
  have order : UnpackedFloat.compare (0.0 : Float).toModel.unpack x.toModel.unpack = some .lt :=
    beq_iff_eq.mp (of_decide_eq_true positive)
  have zero : (0.0 : Float).toModel.unpack = .zero .positive := rfl
  rw [zero] at order
  cases shape : x.toModel.unpack with
  | notANumber =>
    rw [shape] at order
    cases order
  | infinity sign =>
    rw [shape] at order
    cases sign with
    | negative => cases order
    | positive => exact .infinity
  | zero sign =>
    rw [shape] at order
    cases order
  | finite sign mantissa exponent filled =>
    rw [shape] at order
    cases sign with
    | negative => cases order
    | positive => exact .finite filled

theorem unpack_packedInfinity :
    UnpackedFloat.unpack Format.binary64 (packedInfinity Format.binary64 .positive) =
      .infinity .positive := by
  rfl

theorem isFinite_unpack {bits : BitVec Format.binary64.numBits}
    (inside : unpackExponent bits ≠ -1#_) :
    (UnpackedFloat.unpack Format.binary64 bits).isFinite = true := by
  delta UnpackedFloat.unpack
  dsimp only
  rw [if_neg inside]
  by_cases low : unpackExponent bits = 0#_
  · rw [if_pos low]
    by_cases empty : unpackMantissa bits = 0#_
    · rw [dif_pos empty]
      rfl
    · rw [dif_neg empty]
      rfl
  · rw [if_neg low]
    rfl

theorem ofNat_ne_neg_one {n : Nat} (small : n + 1 < 2048) :
    BitVec.ofNat Format.binary64.exponentBits n ≠ -1#_ := by
  intro same
  have value : n % 2048 = 2047 := congrArg BitVec.toNat same
  omega

/-- A positive number that is packed is finite still, or too large and infinite. -/
theorem unpack_pack {number : UnpackedFloat}
    (positive : number = .zero .positive ∨ Above number) :
    (UnpackedFloat.unpack Format.binary64 (UnpackedFloat.pack Format.binary64 number)).isFinite = true ∨
      UnpackedFloat.unpack Format.binary64 (UnpackedFloat.pack Format.binary64 number) =
        .infinity .positive := by
  rcases positive with rfl | positive
  · exact .inl rfl
  · cases positive with
    | infinity => exact .inr unpack_packedInfinity
    | finite filled =>
      delta UnpackedFloat.pack
      dsimp only
      split
      · exact .inr unpack_packedInfinity
      · rename_i small
        left
        split
        · apply isFinite_unpack
          rw [unpackExponent_packComponents]
          exact ofNat_ne_neg_one (Nat.lt_of_not_le small)
        · apply isFinite_unpack
          rw [unpackExponent_packComponents]
          decide

theorem above_round {mantissa : Nat} {exponent : Int} {accuracy : Accuracy} :
    roundWithAccuracy Format.binary64 .positive mantissa exponent accuracy = .zero .positive ∨
      Above (roundWithAccuracy Format.binary64 .positive mantissa exponent accuracy) := by
  delta roundWithAccuracy
  generalize shiftToTargetExponent Format.binary64 mantissa exponent accuracy = shifted
  dsimp only
  generalize shiftToTargetExponent Format.binary64 shifted.1.roundedMantissa shifted.2 .exact = final
  by_cases empty : final.1.mantissa = 0
  · rw [dif_pos empty]
    exact .inl rfl
  · rw [dif_neg empty]
    exact .inr (.finite _)

theorem above_mul {left right : UnpackedFloat} (isLeft : Above left) (bounded : left.isFinite = true)
    (isRight : Above right) :
    UnpackedFloat.mul Format.binary64 left right = .zero .positive ∨
      Above (UnpackedFloat.mul Format.binary64 left right) := by
  cases isLeft with
  | infinity => cases bounded
  | finite filled =>
    cases isRight with
    | infinity => exact .inr .infinity
    | finite filled =>
      exact above_round

theorem boundless_of_unpack {x : Float} (shape : x.toModel.unpack = .infinity .positive) :
    Boundless x := by
  constructor
  · change x.toModel.unpack.isInf = true
    rw [shape]
    rfl
  · have order : UnpackedFloat.compare (0.0 : Float).toModel.unpack x.toModel.unpack = some .lt := by
      rw [shape]
      rfl
    exact decide_eq_true (beq_iff_eq.mpr order)

theorem finite_or_boundless {x : Float} (positive : 0.0 < x) : x.isFinite = true ∨ Boundless x := by
  have above := above_of_pos positive
  generalize shape : x.toModel.unpack = number at above
  cases above with
  | infinity => exact .inr (boundless_of_unpack shape)
  | finite filled =>
    left
    change x.toModel.unpack.isFinite = true
    rw [shape]
    rfl

theorem count_table : ∀ n ∈ List.range 257, 0 < n →
    0.0 < n.toFloat ∧ n.toFloat.isFinite = true ∧ (n.toFloat * 4.0).isFinite = true := by
  decide +kernel

/-- Products with small counts cannot fail to be numbers. -/
theorem finite_or_boundless_mul {count : Nat} (filled : 0 < count) (small : count ≤ 256) {x : Float}
    (positive : 0.0 < x) :
    (count.toFloat * x).isFinite = true ∨ Boundless (count.toFloat * x) := by
  obtain ⟨countPositive, countFinite, _⟩ :=
    count_table count (List.mem_range.mpr (by omega)) filled
  have product := above_mul (above_of_pos countPositive) countFinite (above_of_pos positive)
  rcases unpack_pack product with finite | infinite
  · exact .inl finite
  · exact .inr (boundless_of_unpack infinite)

end UiMarkup.Decimal
