import UiMarkup.Proofs.Component.Merging

namespace UiMarkup

theorem Fields.getElem?_put {κ α : Type} [DecidableEq κ] {fields : List (κ × α)} {place : Nat} {key : κ}
    {value : α} (here : fields[place]? = some (key, value)) (name : κ) (given : α) :
    ∃ later, (put fields name given)[place]? = some (key, later) ∧ (key ≠ name → later = value) := by
  induction fields generalizing place with
  | nil => cases here
  | cons field rest ih =>
    obtain ⟨first, old⟩ := field
    rw [put]
    split
    · rename_i same
      cases place with
      | zero =>
        cases here
        exact ⟨given, rfl, fun other => absurd same other⟩
      | succ place => exact ⟨value, here, fun _ => rfl⟩
    · cases place with
      | zero =>
        cases here
        exact ⟨value, rfl, fun _ => rfl⟩
      | succ place => exact ih here

namespace Value

section Fields

variable {target incoming : List (String × Value)} {key : String} {value : Value}

theorem keys_mergeFields (target incoming : List (String × Value)) :
    Fields.keys (mergeFields target incoming) =
      Fields.keys target ++
        (Fields.keys incoming).eraseDups.filter fun name => decide (name ∉ Fields.keys target) := by
  rw [← Fields.keys_putAll]
  induction incoming generalizing target with
  | nil =>
    rw [mergeFields]
    rfl
  | cons field rest ih =>
    obtain ⟨name, value⟩ := field
    -- which value is put does not change the names
    have names : Fields.keys (Fields.put target name (onto value (Fields.value? target name))) =
        Fields.keys (Fields.put target name value) := by
      rw [Fields.keys_put, Fields.keys_put]
    have step : Fields.putAll target ((name, value) :: rest) =
        Fields.putAll (Fields.put target name value) rest := rfl
    rw [mergeFields, ih, step, Fields.keys_putAll, Fields.keys_putAll, names]

theorem getElem?_mergeFields {place : Nat} (here : target[place]? = some (key, value))
    (incoming : List (String × Value)) :
    ∃ later, (mergeFields target incoming)[place]? = some (key, later) ∧
      (key ∉ Fields.keys incoming → later = value) := by
  induction incoming generalizing target value with
  | nil =>
    rw [mergeFields]
    exact ⟨value, here, fun _ => rfl⟩
  | cons field rest ih =>
    obtain ⟨name, given⟩ := field
    obtain ⟨changed, there, kept⟩ :=
      Fields.getElem?_put here name (onto given (Fields.value? target name))
    obtain ⟨later, last, keptBehind⟩ := ih there
    rw [mergeFields]
    refine ⟨later, last, ?_⟩
    intro absent
    simp only [Fields.keys, List.map_cons, List.mem_cons, not_or] at absent
    rw [keptBehind absent.2, kept absent.1]

theorem value?_mergeFields_of_mem (names : (Fields.keys incoming).Nodup) (member : (key, value) ∈ incoming) :
    Fields.value? (mergeFields target incoming) key = some (onto value (Fields.value? target key)) := by
  induction incoming generalizing target with
  | nil => cases member
  | cons field rest ih =>
    obtain ⟨name, given⟩ := field
    rw [Fields.keys, List.map_cons, List.nodup_cons] at names
    rw [mergeFields]
    rcases List.mem_cons.mp member with same | behind
    · cases same
      rw [value?_mergeFields_of_notMem names.1, Fields.value?_put_self]
    · have other : key ≠ name := by
        rintro rfl
        exact names.1 (List.mem_map.mpr ⟨_, behind, rfl⟩)
      rw [ih names.2 behind, Fields.value?_put_of_ne _ _ other]

end Fields

theorem distinct_object_iff {fields : List (String × Value)} :
    (object fields).Distinct ↔ (Fields.keys fields).Nodup ∧ ∀ field ∈ fields, field.2.Distinct :=
  ⟨fun distinct => ⟨distinct.names, distinct.inside⟩, fun h => .object h.1 h.2⟩

theorem compatible_object_iff {left right : List (String × Value)} :
    Compatible (object left) (object right) ↔
      ∀ field ∈ left, ∀ other ∈ right, field.1 = other.1 → Compatible field.2 other.2 := by
  constructor
  · intro compatible
    cases compatible with
    | plain isLeft isRight => cases isLeft
    | object inside =>
      rintro ⟨key, a⟩ isA ⟨_, b⟩ isB rfl
      exact inside key a b isA isB
  · intro inside
    exact .object fun key a b isA isB => inside (key, a) isA (key, b) isB rfl

theorem Distinct.onto {value : Value} (isValue : value.Distinct) {present : Option Value}
    (isPresent : ∀ old, present = some old → old.Distinct) : (onto value present).Distinct := by
  induction isValue generalizing present with
  | plain isPlain =>
    rw [onto_of_plain isPlain]
    exact .plain isPlain
  | @object fields names inside ih =>
    by_cases merged : ∃ existing, present = some (Value.object existing)
    · obtain ⟨existing, rfl⟩ := merged
      have isExisting := isPresent _ rfl
      rw [onto_object]
      refine .object (nodup_keys_mergeFields isExisting.names) ?_
      apply forall_mem_mergeFields isExisting.inside
      intro field member old isOld
      exact ih field member isOld
    · rw [onto_object_of_apart fun existing here => merged ⟨existing, here⟩]
      exact .object names inside

theorem Compatible.symm {left right : Value} (compatible : Compatible left right) :
    Compatible right left := by
  induction compatible with
  | plain isLeft isRight => exact .plain isRight isLeft
  | object inside ih => exact .object fun key b a isB isA => ih key a b isA isB

/-- What is compatible with two values is compatible with the one put onto the other. -/
theorem Compatible.onto {old value other : Value} (isOld : Compatible old other)
    (isValue : Compatible value other) : Compatible (onto value (some old)) other := by
  induction isValue generalizing old with
  | plain isLeft isRight =>
    rw [onto_of_plain isLeft]
    exact .plain isLeft isRight
  | @object left right inside ih =>
    cases isOld with
    | plain _ isRight => cases isRight
    | @object existing _ among =>
      rw [onto_object]
      have all : ∀ field ∈ mergeFields existing left, ∀ b, (field.1, b) ∈ right → Compatible field.2 b := by
        apply forall_mem_mergeFields
        · intro field member b isB
          exact among field.1 field.2 b member isB
        · intro field member present isPresent b isB
          cases present with
          | none =>
            rw [onto_none]
            exact inside field.1 field.2 b member isB
          | some earlier => exact ih field.1 field.2 b member isB (isPresent earlier rfl b isB)
      exact .object fun key a b isA isB => all (key, a) isA b isB

end Value

namespace Properties

open Value (object)

theorem distinct_merge {first second : Properties} (isFirst : (object first).Distinct)
    (isSecond : (object second).Distinct) : (object (first.merge second)).Distinct := by
  have merged : (Value.onto (object second) (some (object first))).Distinct := by
    apply isSecond.onto
    rintro _ ⟨⟩
    exact isFirst
  rw [Value.onto_object] at merged
  exact merged

theorem compatible_merge {first second third : Properties}
    (isFirst : Value.Compatible (object first) (object third))
    (isSecond : Value.Compatible (object second) (object third)) :
    Value.Compatible (object (first.merge second)) (object third) := by
  have merged := isFirst.onto isSecond
  rw [Value.onto_object] at merged
  exact merged

theorem value?_merge_objects {target incoming existing fields : Properties} {key : String}
    (names : (Fields.keys incoming).Nodup) (there : Fields.value? target key = some (object existing))
    (member : (key, object fields) ∈ incoming) :
    Fields.value? (target.merge incoming) key = some (object (existing.merge fields)) := by
  have found := @Value.value?_mergeFields_of_mem target incoming key _ names member
  rw [there, Value.onto_object] at found
  exact found

theorem value?_merge_of_apart {target incoming : Properties} {key : String} {value : Value}
    (names : (Fields.keys incoming).Nodup) (member : (key, value) ∈ incoming)
    (apart : ∀ fields existing, value = object fields → Fields.value? target key ≠ some (object existing)) :
    Fields.value? (target.merge incoming) key = some value := by
  have found := @Value.value?_mergeFields_of_mem target incoming key value names member
  rw [Value.onto_eq_self apart] at found
  exact found

/-- Merging is an idempotent monoid on sets with distinct names that agree, as deep as they share
names, on what is an object. In any two sets, the names of the target keep their places before the
new ones, a name that does not come in keeps its value, and one that does holds what was given for
it: an object merged into the object that was there, or else the value itself. -/
theorem merge_idempotent_monoid :
    (∀ a b c : Properties, (object a).Distinct → (object b).Distinct → (object c).Distinct →
      Value.Compatible (object a) (object b) → Value.Compatible (object a) (object c) →
      Value.Compatible (object b) (object c) →
      (a.merge b).merge c = a.merge (b.merge c) ∧ (object (a.merge b)).Distinct ∧
        Value.Compatible (object (a.merge b)) (object c) ∧
        Value.Compatible (object a) (object (b.merge c))) ∧
    (∀ a : Properties, (object a).Distinct → a.merge a = a ∧ a.merge [] = a ∧ merge [] a = a) ∧
    ∀ target incoming : Properties,
      (Fields.keys (target.merge incoming) = Fields.keys target ++
        (Fields.keys incoming).eraseDups.filter fun name => decide (name ∉ Fields.keys target)) ∧
      (∀ (place : Nat) key value, target[place]? = some (key, value) →
        ∃ later, (target.merge incoming)[place]? = some (key, later) ∧
          (key ∉ Fields.keys incoming → later = value)) ∧
      ((Fields.keys incoming).Nodup → ∀ key,
        (∀ existing fields : Properties, Fields.value? target key = some (object existing) →
          (key, object fields) ∈ incoming →
          Fields.value? (target.merge incoming) key = some (object (existing.merge fields))) ∧
        ∀ value, (key, value) ∈ incoming →
          (∀ fields existing, value = object fields → Fields.value? target key ≠ some (object existing)) →
          Fields.value? (target.merge incoming) key = some value) := by
  refine ⟨?_, ?_, ?_⟩
  · intro a b c isA isB isC withB withC between
    have apart := compatible_merge withB.symm withC.symm
    exact ⟨merge_merge isB isC between a, distinct_merge isA isB, compatible_merge withC between, apart.symm⟩
  · intro a isA
    exact ⟨merge_self isA, merge_nil a, nil_merge isA.names⟩
  · intro target incoming
    refine ⟨Value.keys_mergeFields target incoming, ?_, ?_⟩
    · intro place key value here
      exact Value.getElem?_mergeFields here incoming
    · intro names key
      constructor
      · intro existing fields there member
        exact value?_merge_objects names there member
      · intro value member apart
        exact value?_merge_of_apart names member apart

/-- Three styles with objects inside objects, the third of which changes a text of the first. -/
theorem merge_idempotent_monoid_styles :
    let a : Properties := [("Visible", .flag true),
      ("Style", object [("Wrap", .flag true), ("Font", object [("Name", .text "Mono")])])]
    let b : Properties := [("Style", object [("Font", object [("Size", .text "4")])]), ("Text", .text "x")]
    let c : Properties := [("Text", .text "y"), ("Style", object [("Font", object [("Name", .text "Sans")])])]
    (object a).Distinct ∧ (object b).Distinct ∧ (object c).Distinct ∧
    Value.Compatible (object a) (object b) ∧ Value.Compatible (object a) (object c) ∧
    Value.Compatible (object b) (object c) ∧
    a.merge (b.merge c) = (a.merge b).merge c ∧
    (a.merge b).merge c = [("Visible", .flag true),
      ("Style", object [("Wrap", .flag true),
        ("Font", object [("Name", .text "Sans"), ("Size", .text "4")])]), ("Text", .text "y")] := by
  intro a b c
  have isA : (object a).Distinct := by
    simp [a, Value.distinct_object_iff, Fields.keys]
    exact ⟨.plain rfl, .plain rfl⟩
  have isB : (object b).Distinct := by
    simp [b, Value.distinct_object_iff, Fields.keys]
    exact ⟨.plain rfl, .plain rfl⟩
  have isC : (object c).Distinct := by
    simp [c, Value.distinct_object_iff, Fields.keys]
    exact ⟨.plain rfl, .plain rfl⟩
  have withB : Value.Compatible (object a) (object b) := by
    simp [a, b, Value.compatible_object_iff]
  have withC : Value.Compatible (object a) (object c) := by
    simp [a, c, Value.compatible_object_iff]
    exact .plain rfl rfl
  have between : Value.Compatible (object b) (object c) := by
    simp [b, c, Value.compatible_object_iff]
    exact .plain rfl rfl
  have laws := merge_idempotent_monoid.1 a b c isA isB isC withB withC between
  refine ⟨isA, isB, isC, withB, withC, between, laws.1.symm, ?_⟩
  simp [a, b, c, merge, Value.mergeFields, Value.onto, Fields.put, Fields.value?]

end Properties

end UiMarkup
