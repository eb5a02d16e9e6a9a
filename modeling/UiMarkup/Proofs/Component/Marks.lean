import UiMarkup.Picture.Raster
import UiMarkup.Proofs.Component.Colors
import UiMarkup.Proofs.Component.Merging

namespace UiMarkup

def isMark (c : Char) : Bool :=
  c == '\x7b' || c == '\x7d' || c == '"'

def Unmarked (text : String) : Prop :=
  ∀ c ∈ text.toList, isMark c = false

instance (text : String) : Decidable (Unmarked text) :=
  decidable_of_iff (text.toList.all fun c => !isMark c) (by simp [Unmarked])

/-- A key may have braces, but no quotes and nothing that would set a brace apart. -/
def isKeyChar (c : Char) : Bool :=
  c != ' ' && c != '\n' && c != '"'

def IsKey (key : String) : Prop :=
  ∀ c ∈ key.toList, isKeyChar c = true

instance (key : String) : Decidable (IsKey key) :=
  decidable_of_iff (key.toList.all isKeyChar) (by simp [IsKey])

theorem isMark_eq_false {keep : Char → Bool}
    (outside : (keep '\x7b' || keep '\x7d' || keep '"') = false) {c : Char} (kept : keep c = true) :
    isMark c = false := by
  by_contra marked
  simp only [isMark, Bool.not_eq_false, Bool.or_eq_true, beq_iff_eq] at marked
  rcases marked with (rfl | rfl) | rfl
  all_goals simp [kept] at outside

theorem Unmarked.append {left right : String} (isLeft : Unmarked left) (isRight : Unmarked right) :
    Unmarked (left ++ right) := by
  rw [Unmarked, String.toList_append]
  exact List.forall_mem_append.mpr ⟨isLeft, isRight⟩

theorem unmarked_ofList {text : List Char} (free : ∀ c ∈ text, isMark c = false) :
    Unmarked (String.ofList text) := by
  rwa [Unmarked, String.toList_ofList]

namespace Decimal

theorem isMark_toDigits {n : Nat} : ∀ c ∈ Nat.toDigits 10 n, isMark c = false := by
  intro c member
  have digit := Nat.isDigit_of_mem_toDigits (by omega) (by omega) member
  exact @isMark_eq_false Char.isDigit (by decide) c digit

theorem isMark_positional (digits : Nat) (power : Int) :
    ∀ c ∈ positional digits power, isMark c = false := by
  have shown := @isMark_toDigits digits
  have zeros (count : Nat) : ∀ c ∈ List.replicate count '0', isMark c = false := by
    intro c member
    rw [List.eq_of_mem_replicate member]
    rfl
  unfold positional
  simp only
  split
  · exact List.forall_mem_append.mpr ⟨shown, zeros _⟩
  · split
    · refine List.forall_mem_append.mpr ⟨?_, List.forall_mem_cons.mpr ⟨rfl, ?_⟩⟩
      · exact fun c member => shown c (List.mem_of_mem_take member)
      · exact fun c member => shown c (List.mem_of_mem_drop member)
    · refine List.forall_mem_append.mpr ⟨?_, shown⟩
      exact List.forall_mem_cons.mpr ⟨rfl, List.forall_mem_cons.mpr ⟨rfl, zeros _⟩⟩

theorem unmarked_shortest (x : Float) : Unmarked (shortest x) := by
  unfold shortest
  simp only
  split
  · decide
  · split
    · decide
    · apply unmarked_ofList
      have magnitude : ∀ c ∈ (if x.toBits.toNat % signBit = infiniteBits then ['i', 'n', 'f']
          else shortestPositive (x.toBits.toNat % signBit)), isMark c = false := by
        split
        · simp [isMark]
        · exact isMark_positional _ _
      split
      · exact List.forall_mem_cons.mpr ⟨rfl, magnitude⟩
      · exact magnitude

end Decimal

namespace Color

theorem unmarked_opaqueColor {digits : List Char} (free : ∀ c ∈ digits, isMark c = false) :
    Unmarked (opaqueColor digits) :=
  Unmarked.append (by decide) (unmarked_ofList free)

theorem unmarked_withAlpha {digits : List Char} (free : ∀ c ∈ digits, isMark c = false)
    (alpha : Float) : Unmarked (withAlpha digits alpha) := by
  have opening : Unmarked (opaqueColor digits ++ "(") := (unmarked_opaqueColor free).append (by decide)
  exact (opening.append (Decimal.unmarked_shortest _)).append (by decide)

theorem isMark_digitChar (n : Nat) : isMark (Nat.digitChar n) = false := by
  by_cases small : n < 16
  · have table : ∀ m < 16, isMark (Nat.digitChar m) = false := by decide
    exact table n small
  · unfold Nat.digitChar
    repeat rw [if_neg (by omega)]
    rfl

theorem isMark_channelDigits (channel : Nat) : ∀ c ∈ channelDigits channel, isMark c = false := by
  simp [channelDigits, isMark_digitChar]

theorem isMark_channels (red green blue : Nat) :
    ∀ c ∈ channelDigits red ++ channelDigits green ++ channelDigits blue, isMark c = false := by
  have first := List.forall_mem_append.mpr ⟨isMark_channelDigits red, isMark_channelDigits green⟩
  exact List.forall_mem_append.mpr ⟨first, isMark_channelDigits blue⟩

/-- A colour that is read is written anew, so no character of the source gets into it unseen. -/
theorem unmarked_read {value color : String} (h : read value = .ok color) : Unmarked color := by
  obtain ⟨digits, six, shape⟩ := isNormal_read h
  have table : ("0123456789abcdef".toList.all fun c => !isMark c) = true := by decide
  have free : ∀ c ∈ digits, isMark c = false := by
    intro c member
    simpa using List.all_eq_true.mp table c (six.2 c member)
  rcases shape with rfl | ⟨alpha, _, rfl⟩
  · exact unmarked_opaqueColor free
  · exact unmarked_withAlpha free alpha

end Color

namespace Value

mutual

def Unmarked : Value → Prop
  | color c => UiMarkup.Unmarked c
  | expression e => UiMarkup.Unmarked e
  | object fields => FieldsUnmarked fields
  | _ => True

def FieldsUnmarked : List (String × Value) → Prop
  | [] => True
  | (key, value) :: rest => IsKey key ∧ value.Unmarked ∧ FieldsUnmarked rest

end

theorem fieldsUnmarked_iff {fields : List (String × Value)} :
    FieldsUnmarked fields ↔ ∀ field ∈ fields, IsKey field.1 ∧ field.2.Unmarked := by
  induction fields with
  | nil => simp [FieldsUnmarked]
  | cons field rest ih =>
    obtain ⟨key, value⟩ := field
    rw [FieldsUnmarked, ih, List.forall_mem_cons, and_assoc]

theorem fieldsUnmarked_of_object {fields : List (String × Value)} (h : (object fields).Unmarked) :
    FieldsUnmarked fields := by
  rwa [Unmarked] at h

mutual

theorem unmarked_onto (incoming : Value) (present : Option Value) (isIncoming : incoming.Unmarked)
    (isPresent : ∀ fields, present = some (object fields) → FieldsUnmarked fields) :
    (onto incoming present).Unmarked := by
  by_cases merged : ∃ existing, present = some (object existing)
  · obtain ⟨existing, rfl⟩ := merged
    cases incoming with
    | object fields =>
      have isExisting := fieldsUnmarked_iff.mp (isPresent existing rfl)
      rw [onto_object, Unmarked]
      apply fieldsUnmarked_iff.mpr
      exact mergeFields_forall fields existing (fun _ h => h) (fun _ h => fieldsUnmarked_of_object h)
        (fieldsUnmarked_of_object isIncoming) isExisting
    | _ =>
      rw [onto_eq_self (by simp)]
      exact isIncoming
  · rw [onto_eq_self fun _ existing _ here => merged ⟨existing, here⟩]
    exact isIncoming

/-- Merging keeps what holds of all fields, where that follows from being unmarked and is nothing
more for objects. -/
theorem mergeFields_forall {holds : Value → Prop} (incoming target : List (String × Value))
    (ofUnmarked : ∀ value, value.Unmarked → holds value)
    (ofObject : ∀ fields, holds (object fields) → FieldsUnmarked fields)
    (isIncoming : FieldsUnmarked incoming)
    (isTarget : ∀ field ∈ target, IsKey field.1 ∧ holds field.2) :
    ∀ field ∈ mergeFields target incoming, IsKey field.1 ∧ holds field.2 := by
  cases incoming with
  | nil =>
    rw [mergeFields]
    exact isTarget
  | cons first rest =>
    obtain ⟨key, value⟩ := first
    rw [FieldsUnmarked] at isIncoming
    obtain ⟨isKey, isValue, isRest⟩ := isIncoming
    rw [mergeFields]
    refine mergeFields_forall rest _ ofUnmarked ofObject isRest ?_
    -- the field that changes is unmarked, since what it held was either replaced or an object
    have unmarked : (onto value (Fields.value? target key)).Unmarked := by
      refine unmarked_onto value _ isValue ?_
      intro fields present
      exact ofObject fields (isTarget _ (Fields.mem_of_value? present)).2
    intro field member
    rcases Fields.mem_put member with member | rfl
    · exact isTarget field member
    · exact ⟨isKey, ofUnmarked _ unmarked⟩

end

theorem fieldsUnmarked_merge {target incoming : Properties} (isTarget : FieldsUnmarked target)
    (isIncoming : FieldsUnmarked incoming) : FieldsUnmarked (target.merge incoming) := by
  have target := fieldsUnmarked_iff.mp isTarget
  apply fieldsUnmarked_iff.mpr
  exact mergeFields_forall incoming _ (fun _ h => h) (fun _ h => fieldsUnmarked_of_object h) isIncoming
    target

theorem unmarked_object {fields : List (String × Value)}
    (h : ∀ field ∈ fields, IsKey field.1 ∧ field.2.Unmarked) : (object fields).Unmarked := by
  rw [Unmarked]
  exact fieldsUnmarked_iff.mpr h

end Value

namespace Style

def Kind.isSafe : Kind → Bool
  | choice words => words.all fun word => decide (Unmarked word.2)
  | _ => true

def Target.isSafe (target : Target) : Bool :=
  decide (IsKey target.property) && target.field.all (fun field => decide (IsKey field)) &&
    target.kind.isSafe

theorem isSafe_of_mem_targets : ∀ entry ∈ targets, entry.2.isSafe = true :=
  List.all_eq_true.mp (by decide)

theorem unmarked_sides {top right bottom left : Value} (isTop : top.Unmarked) (isRight : right.Unmarked)
    (isBottom : bottom.Unmarked) (isLeft : left.Unmarked) : (sides top right bottom left).Unmarked := by
  apply Value.unmarked_object
  simp only [List.forall_mem_cons, List.not_mem_nil, false_implies, implies_true, and_true]
  exact ⟨⟨by decide, isLeft⟩, ⟨by decide, isTop⟩, ⟨by decide, isRight⟩, ⟨by decide, isBottom⟩⟩

theorem Kind.Gives.unmarked {kind : Kind} {value : Value} (gives : kind.Gives value)
    (isSafe : kind.isSafe = true) : value.Unmarked := by
  have length {value : Value} (gives : Kind.length.Gives value) : value.Unmarked := by
    cases gives
    trivial
  cases gives with
  | color read => exact Color.unmarked_read read
  | box isTop isRight isBottom isLeft =>
    exact unmarked_sides (length isTop) (length isRight) (length isBottom) (length isLeft)
  | choice member =>
    have unmarked := of_decide_eq_true (List.all_eq_true.mp isSafe _ member)
    exact unmarked
  | _ => trivial

theorem unmarked_assign {target : Target} {value : Value} (isSafe : target.isSafe = true)
    (gives : target.kind.Gives value) : Value.FieldsUnmarked (target.assign value) := by
  simp only [Target.isSafe, Bool.and_eq_true, decide_eq_true_eq] at isSafe
  obtain ⟨⟨isKey, isField⟩, isKind⟩ := isSafe
  have unmarked := gives.unmarked isKind
  unfold Target.assign
  split
  · exact ⟨isKey, unmarked, trivial⟩
  · rename_i field isSome
    rw [isSome, Option.all_some, decide_eq_true_eq] at isField
    exact ⟨isKey, ⟨isField, unmarked, trivial⟩, trivial⟩

theorem unmarked_parse {block : String} {properties : Properties} (h : parse block = .ok properties) :
    Value.FieldsUnmarked properties := by
  have start : Value.FieldsUnmarked [] := trivial
  refine readDeclarations_forall Value.FieldsUnmarked ?_ start h
  intro properties unmarked entry among value gives
  exact Value.fieldsUnmarked_merge unmarked (unmarked_assign (isSafe_of_mem_targets entry among) gives)

end Style

end UiMarkup
