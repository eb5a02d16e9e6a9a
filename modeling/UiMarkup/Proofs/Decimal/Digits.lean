import UiMarkup.Proofs.Markup.Spelling

namespace UiMarkup.Decimal

variable {base : Nat} {c : Char}

theorem digitValue?_of_digit (low : 48 ≤ c.toNat) (high : c.toNat ≤ 57) :
    digitValue? base c = if c.toNat - 48 < base then some (c.toNat - 48) else none := by
  simp only [digitValue?, low, high, and_self, ↓reduceIte]

theorem digitValue?_of_small (low : 97 ≤ c.toNat) (high : c.toNat ≤ 102) :
    digitValue? base c = if c.toNat - 87 < base then some (c.toNat - 87) else none := by
  have notDigit : ¬ (48 ≤ c.toNat ∧ c.toNat ≤ 57) := by omega
  simp only [digitValue?, notDigit, low, high, and_self, ↓reduceIte]

theorem digitValue?_of_capital (low : 65 ≤ c.toNat) (high : c.toNat ≤ 70) :
    digitValue? base c = if c.toNat - 55 < base then some (c.toNat - 55) else none := by
  have notDigit : ¬ (48 ≤ c.toNat ∧ c.toNat ≤ 57) := by omega
  have notSmall : ¬ (97 ≤ c.toNat ∧ c.toNat ≤ 102) := by omega
  simp only [digitValue?, notDigit, notSmall, low, high, and_self, ↓reduceIte]

theorem digitValue?_of_other (notDigit : ¬ (48 ≤ c.toNat ∧ c.toNat ≤ 57))
    (notSmall : ¬ (97 ≤ c.toNat ∧ c.toNat ≤ 102)) (notCapital : ¬ (65 ≤ c.toNat ∧ c.toNat ≤ 70)) :
    digitValue? base c = none := by
  simp only [digitValue?, notDigit, notSmall, notCapital, Nat.lt_irrefl, ↓reduceIte]

theorem digitValue?_digitChar {digit : Nat} (small : digit < base) (bound : base ≤ 16) :
    digitValue? base (Nat.digitChar digit) = some digit := by
  have table : ∀ d < 16,
      (48 ≤ d.digitChar.toNat ∧ d.digitChar.toNat ≤ 57 ∧ d.digitChar.toNat - 48 = d) ∨
      (97 ≤ d.digitChar.toNat ∧ d.digitChar.toNat ≤ 102 ∧ d.digitChar.toNat - 87 = d) := by
    decide
  rcases table digit (by omega) with ⟨low, high, value⟩ | ⟨low, high, value⟩
  · rw [digitValue?_of_digit low high, value, if_pos small]
  · rw [digitValue?_of_small low high, value, if_pos small]

theorem digitValue?_toLower (base : Nat) (c : Char) : digitValue? base c.toLower = digitValue? base c := by
  by_cases upper : c.val ≥ 'A'.val ∧ c.val ≤ 'Z'.val
  · have range : 65 ≤ c.toNat ∧ c.toNat ≤ 90 := upper
    have moved : c.toLower.toNat = c.toNat + 32 := by
      have shifted : c.toLower.val = c.val + 32 := congrArg Char.val (dif_pos upper)
      have sum : (c.val + 32).toNat = (c.toNat + 32) % 4294967296 := UInt32.toNat_add c.val 32
      change c.toLower.val.toNat = c.toNat + 32
      rw [shifted, sum]
      omega
    by_cases letter : c.toNat ≤ 70
    · have same : c.toLower.toNat - 87 = c.toNat - 55 := by omega
      rw [digitValue?_of_capital range.1 letter, digitValue?_of_small (by omega) (by omega), same]
    · rw [digitValue?_of_other (by omega) (by omega) (by omega),
        digitValue?_of_other (by omega) (by omega) (by omega)]
  · have same : c.toLower = c := dif_neg upper
    rw [same]

theorem digitsValue?_toLower (base start : Nat) (digits : List Char) :
    digitsValue? base start (digits.map Char.toLower) = digitsValue? base start digits := by
  induction digits generalizing start with
  | nil => rfl
  | cons c digits ih => simp only [List.map_cons, digitsValue?, digitValue?_toLower, ih]

theorem digitsValue?_append (base start : Nat) (front rest : List Char) :
    digitsValue? base start (front ++ rest) =
      (digitsValue? base start front).bind fun value => digitsValue? base value rest := by
  induction front generalizing start with
  | nil => rfl
  | cons c front ih =>
    simp only [List.cons_append, digitsValue?]
    split
    · exact ih _
    · rfl

theorem digitsValue?_zeros (positive : 0 < base) (count : Nat) :
    digitsValue? base 0 (List.replicate count '0') = some 0 := by
  have zero : digitValue? base '0' = some 0 := by
    simp [digitValue?, positive]
  induction count with
  | zero => rfl
  | succ count ih => simpa [List.replicate_succ, digitsValue?, zero] using ih

theorem digitsValue?_toDigits (several : 1 < base) (bound : base ≤ 16) (n : Nat) :
    digitsValue? base 0 (Nat.toDigits base n) = some n := by
  induction n using Nat.strongRecOn with
  | ind n ih =>
    rw [Nat.toDigits_eq_if several]
    split
    · rename_i small
      simp [digitsValue?, digitValue?_digitChar small bound]
    · rename_i large
      -- all digits but the last are those of the quotient
      have last : digitValue? base (n % base).digitChar = some (n % base) :=
        digitValue?_digitChar (Nat.mod_lt n (by omega)) bound
      have whole : n / base * base + n % base = n := by
        rw [Nat.mul_comm]
        exact Nat.div_add_mod n base
      rw [digitsValue?_append, ih (n / base) (Nat.div_lt_self (by omega) several)]
      simp [digitsValue?, last, whole]

theorem digitsValue?_spelled (several : 1 < base) (bound : base ≤ 16) {n : Nat}
    {digits : List Char} (zeros : Nat) (spelled : digits.map Char.toLower = Nat.toDigits base n) :
    digitsValue? base 0 (List.replicate zeros '0' ++ digits) = some n := by
  rw [digitsValue?_append, digitsValue?_zeros (by omega), Option.bind_some, ← digitsValue?_toLower,
    spelled, digitsValue?_toDigits several bound]

theorem digitValue?_ten_iff {digit : Nat} :
    digitValue? 10 c = some digit ↔ c.isDigit = true ∧ c.toNat - 48 = digit := by
  rw [Char.isDigit_iff_toNat]
  change _ ↔ (48 ≤ c.toNat ∧ c.toNat ≤ 57) ∧ c.toNat - 48 = digit
  by_cases isDigit : 48 ≤ c.toNat ∧ c.toNat ≤ 57
  · have small : c.toNat - 48 < 10 := by omega
    rw [digitValue?_of_digit isDigit.1 isDigit.2, if_pos small, Option.some.injEq]
    exact (and_iff_right isDigit).symm
  · have none : digitValue? 10 c = none := by
      by_cases letter : 97 ≤ c.toNat ∧ c.toNat ≤ 102
      · rw [digitValue?_of_small letter.1 letter.2, if_neg (by omega)]
      · by_cases capital : 65 ≤ c.toNat ∧ c.toNat ≤ 70
        · rw [digitValue?_of_capital capital.1 capital.2, if_neg (by omega)]
        · exact digitValue?_of_other isDigit letter capital
    simp [none, isDigit]

theorem digitsValue?_ten_iff {start value : Nat} {digits : List Char} :
    digitsValue? 10 start digits = some value ↔
      (∀ c ∈ digits, c.isDigit = true) ∧ Nat.ofDigitChars 10 digits start = value := by
  induction digits generalizing start with
  | nil => simp [digitsValue?]
  | cons c digits ih =>
    rw [digitsValue?, Nat.ofDigitChars_cons, List.forall_mem_cons]
    by_cases isDigit : c.isDigit = true
    · rw [digitValue?_ten_iff.mpr ⟨isDigit, rfl⟩]
      simp only [ih, isDigit, true_and, Nat.mul_comm start 10]
      rfl
    · have none : digitValue? 10 c = none := by
        rw [Option.eq_none_iff_forall_ne_some]
        intro digit read
        exact isDigit (digitValue?_ten_iff.mp read).1
      simp [none, isDigit]

theorem digitsValue?_of_boundedValue? {limit start value : Nat} {digits : List Char}
    (read : boundedValue? base limit start digits = some value) :
    digitsValue? base start digits = some value := by
  induction digits generalizing start with
  | nil =>
    unfold boundedValue? at read
    split at read
    · exact read
    · cases read
  | cons c digits ih =>
    unfold boundedValue? at read
    unfold digitsValue?
    split at read
    · split at read
      · exact ih read
      · cases read
    · cases read

/-- The numbers that can be read are those written in decimal digits, perhaps behind a plus sign, that
are within the bound. -/
theorem readNat?_ten_iff {limit value : Nat} {text : List Char} :
    readNat? 10 limit text = some value ↔
      ∃ sign digits, text = sign ++ digits ∧ (sign = [] ∨ sign = ['+']) ∧ digits ≠ [] ∧
        (∀ c ∈ digits, c.isDigit = true) ∧ Nat.ofDigitChars 10 digits 0 = value ∧ value ≤ limit := by
  constructor
  · intro read
    have parts : ∃ sign, text = sign ++ unsigned text ∧ (sign = [] ∨ sign = ['+']) := by
      unfold unsigned
      split
      · exact ⟨['+'], rfl, .inr rfl⟩
      · exact ⟨[], rfl, .inl rfl⟩
    obtain ⟨sign, whole, isSign⟩ := parts
    have bound := readNat?_le read
    unfold readNat? at read
    split at read
    · cases read
    · rename_i filled
      obtain ⟨all, sum⟩ := digitsValue?_ten_iff.mp (digitsValue?_of_boundedValue? read)
      exact ⟨sign, unsigned text, whole, isSign, by simpa using filled, all, sum, bound⟩
  · rintro ⟨sign, digits, rfl, isSign, filled, all, sum, bound⟩
    have value := digitsValue?_ten_iff.mpr ⟨all, sum⟩
    rcases isSign with rfl | rfl
    · exact readNat?_eq (by decide) filled value bound
    · change (if digits.isEmpty then none else boundedValue? 10 limit 0 digits) = _
      rw [if_neg (by simpa using filled)]
      exact boundedValue?_eq (by decide) value bound

end UiMarkup.Decimal
