import UiMarkup.Component.Value
import UiMarkup.Proofs.Fields

namespace UiMarkup

namespace Value

def isObject : Value → Bool
  | object _ => true
  | _ => false

theorem onto_object (fields existing : List (String × Value)) :
    onto (object fields) (some (object existing)) = object (mergeFields existing fields) := by
  simp [onto]

theorem onto_eq_self {incoming : Value} {present : Option Value}
    (apart : ∀ fields existing, incoming = object fields → present ≠ some (object existing)) :
    onto incoming present = incoming := by
  unfold onto
  split
  · split
    · exact absurd rfl (apart _ _ rfl)
    · rfl
  · rfl

theorem onto_of_plain {incoming : Value} (plain : incoming.isObject = false) (present : Option Value) :
    onto incoming present = incoming := by
  apply onto_eq_self
  intro fields existing same
  rw [same] at plain
  cases plain

theorem onto_object_of_apart {present : Option Value}
    (apart : ∀ existing, present ≠ some (object existing)) (fields : List (String × Value)) :
    onto (object fields) present = object fields := by
  apply onto_eq_self
  intro _ existing _
  exact apart existing

theorem onto_none (incoming : Value) : onto incoming none = incoming := by
  apply onto_eq_self
  intro fields existing _ present
  cases present

section Fields

variable {target incoming : List (String × Value)} {key : String}

theorem mem_keys_mergeFields_iff :
    key ∈ Fields.keys (mergeFields target incoming) ↔
      key ∈ Fields.keys target ∨ key ∈ Fields.keys incoming := by
  induction incoming generalizing target with
  | nil => simp [mergeFields, Fields.keys]
  | cons field rest ih =>
    obtain ⟨name, value⟩ := field
    rw [mergeFields, ih, Fields.mem_keys_put_iff, or_assoc]
    simp [Fields.keys]

theorem nodup_keys_mergeFields (distinct : (Fields.keys target).Nodup) :
    (Fields.keys (mergeFields target incoming)).Nodup := by
  induction incoming generalizing target with
  | nil =>
    rw [mergeFields]
    exact distinct
  | cons field rest ih =>
    obtain ⟨name, value⟩ := field
    rw [mergeFields]
    exact ih (Fields.nodup_keys_put distinct name _)

theorem forall_mem_mergeFields {holds : String × Value → Prop} (isTarget : ∀ field ∈ target, holds field)
    (isIncoming : ∀ field ∈ incoming, ∀ present,
      (∀ old, present = some old → holds (field.1, old)) → holds (field.1, onto field.2 present)) :
    ∀ field ∈ mergeFields target incoming, holds field := by
  induction incoming generalizing target with
  | nil =>
    rw [mergeFields]
    exact isTarget
  | cons first rest ih =>
    obtain ⟨name, value⟩ := first
    rw [List.forall_mem_cons] at isIncoming
    rw [mergeFields]
    apply ih _ isIncoming.2
    intro field member
    rcases Fields.mem_put member with member | rfl
    · exact isTarget field member
    · apply isIncoming.1
      intro old found
      exact isTarget _ (Fields.mem_of_value? found)

theorem mergeFields_of_disjoint (names : (Fields.keys incoming).Nodup)
    (apart : ∀ name ∈ Fields.keys incoming, name ∉ Fields.keys target) :
    mergeFields target incoming = target ++ incoming := by
  induction incoming generalizing target with
  | nil => rw [mergeFields, List.append_nil]
  | cons field rest ih =>
    obtain ⟨name, value⟩ := field
    rw [Fields.keys, List.map_cons, List.nodup_cons] at names
    have fresh : name ∉ Fields.keys target := apart name List.mem_cons_self
    have further : ∀ other ∈ Fields.keys rest, other ∉ Fields.keys (target ++ [(name, value)]) := by
      intro other member there
      rw [Fields.keys, List.map_append, List.mem_append] at there
      rcases there with there | there
      · exact apart other (List.mem_cons_of_mem _ member) there
      · rw [List.map_singleton, List.mem_singleton] at there
        exact names.1 (there ▸ member)
    rw [mergeFields, Fields.value?_eq_none_of_notMem fresh, onto_none, Fields.put_of_notMem fresh,
      ih names.2 further, List.append_assoc, List.singleton_append]

theorem value?_mergeFields_of_notMem (absent : key ∉ Fields.keys incoming) :
    Fields.value? (mergeFields target incoming) key = Fields.value? target key := by
  induction incoming generalizing target with
  | nil => rw [mergeFields]
  | cons field rest ih =>
    obtain ⟨name, value⟩ := field
    simp only [Fields.keys, List.map_cons, List.mem_cons, not_or] at absent
    rw [mergeFields, ih absent.2, Fields.value?_put_of_ne _ _ absent.1]

theorem put_mergeFields (there : key ∈ Fields.keys target) (absent : key ∉ Fields.keys incoming)
    (value : Value) :
    Fields.put (mergeFields target incoming) key value =
      mergeFields (Fields.put target key value) incoming := by
  induction incoming generalizing target with
  | nil => rw [mergeFields, mergeFields]
  | cons field rest ih =>
    obtain ⟨name, given⟩ := field
    simp only [Fields.keys, List.map_cons, List.mem_cons, not_or] at absent
    have still : key ∈ Fields.keys (Fields.put target name (onto given (Fields.value? target name))) :=
      Fields.mem_keys_put_iff.mpr (.inl there)
    rw [mergeFields, mergeFields, ih still absent.2, Fields.value?_put_of_ne _ _ (Ne.symm absent.1),
      Fields.put_comm_of_mem there (Ne.symm absent.1)]

theorem mergeFields_put (names : (Fields.keys incoming).Nodup) (value : Value)
    (settles : ∀ old, Fields.value? incoming key = some old → ∀ present,
      onto (onto value (some old)) present = onto value (some (onto old present))) :
    mergeFields target (Fields.put incoming key (onto value (Fields.value? incoming key))) =
      Fields.put (mergeFields target incoming) key
        (onto value (Fields.value? (mergeFields target incoming) key)) := by
  induction incoming generalizing target with
  | nil => simp only [Fields.value?_nil, onto_none, Fields.put, mergeFields]
  | cons field rest ih =>
    obtain ⟨name, old⟩ := field
    rw [Fields.keys, List.map_cons, List.nodup_cons] at names
    obtain ⟨fresh, names⟩ := names
    by_cases same : name = key
    · subst same
      have found : Fields.value? ((name, old) :: rest) name = some old := by simp [Fields.value?]
      have there : name ∈ Fields.keys (Fields.put target name (onto old (Fields.value? target name))) :=
        Fields.mem_keys_put_iff.mpr (.inr rfl)
      rw [found, Fields.put, if_pos rfl, mergeFields, mergeFields, settles old found,
        value?_mergeFields_of_notMem fresh, Fields.value?_put_self, put_mergeFields there fresh,
        Fields.put_put_self]
    · have behind : Fields.value? ((name, old) :: rest) key = Fields.value? rest key := by
        simp [Fields.value?, same]
      rw [behind] at settles ⊢
      rw [Fields.put, if_neg same, mergeFields, mergeFields]
      exact ih names settles

end Fields

inductive Distinct : Value → Prop
  | plain {value : Value} (isPlain : value.isObject = false) : Distinct value
  | object {fields : List (String × Value)} (names : (Fields.keys fields).Nodup)
      (inside : ∀ field ∈ fields, Distinct field.2) : Distinct (object fields)

/-- Objects stand against objects and plain values against plain values, as deep as names are
shared. -/
inductive Compatible : Value → Value → Prop
  | plain {left right : Value} (isLeft : left.isObject = false) (isRight : right.isObject = false) :
      Compatible left right
  | object {left right : List (String × Value)}
      (inside : ∀ key a b, (key, a) ∈ left → (key, b) ∈ right → Compatible a b) :
      Compatible (object left) (object right)

theorem Distinct.names {fields : List (String × Value)} (distinct : (Value.object fields).Distinct) :
    (Fields.keys fields).Nodup := by
  cases distinct with
  | plain isPlain => cases isPlain
  | object names inside => exact names

theorem Distinct.inside {fields : List (String × Value)} (distinct : (Value.object fields).Distinct) :
    ∀ field ∈ fields, field.2.Distinct := by
  cases distinct with
  | plain isPlain => cases isPlain
  | object names inside => exact inside

theorem mergeFields_mergeFields {first second : List (String × Value)}
    (names : (Fields.keys first).Nodup) (fresh : (Fields.keys second).Nodup)
    (settles : ∀ key old value, (key, old) ∈ first → (key, value) ∈ second → ∀ present,
      onto (onto value (some old)) present = onto value (some (onto old present)))
    (target : List (String × Value)) :
    mergeFields (mergeFields target first) second = mergeFields target (mergeFields first second) := by
  induction second generalizing first with
  | nil => rw [mergeFields, mergeFields]
  | cons field rest ih =>
    obtain ⟨key, value⟩ := field
    rw [Fields.keys, List.map_cons, List.nodup_cons] at fresh
    have step : mergeFields target (Fields.put first key (onto value (Fields.value? first key))) =
        Fields.put (mergeFields target first) key
          (onto value (Fields.value? (mergeFields target first) key)) := by
      apply mergeFields_put names
      intro old found
      exact settles key old value (Fields.mem_of_value? found) List.mem_cons_self
    rw [mergeFields, mergeFields, ← step]
    apply ih (Fields.nodup_keys_put names key _) fresh.2
    -- the name that was just set does not come again
    intro name old later among member
    rcases Fields.mem_put among with among | same
    · exact settles name old later among (List.mem_cons_of_mem _ member)
    · cases same
      exact absurd (List.mem_map.mpr ⟨_, member, rfl⟩) fresh.1

theorem Compatible.onto_onto {old value : Value} (compatible : Compatible old value)
    (isOld : old.Distinct) (isValue : value.Distinct) (present : Option Value) :
    onto (onto value (some old)) present = onto value (some (onto old present)) := by
  induction compatible generalizing present with
  | plain isLeft isRight =>
    rw [onto_of_plain isRight, onto_of_plain isRight, onto_of_plain isRight]
  | @object left right inside ih =>
    rw [onto_object]
    by_cases merged : ∃ existing, present = some (Value.object existing)
    · obtain ⟨existing, rfl⟩ := merged
      rw [onto_object, onto_object, onto_object]
      have same := mergeFields_mergeFields isOld.names isValue.names
        (fun key a b isA isB => ih key a b isA isB (isOld.inside _ isA) (isValue.inside _ isB)) existing
      rw [same]
    · have apart := onto_object_of_apart fun existing here => merged ⟨existing, here⟩
      rw [apart, apart, onto_object]

theorem mergeFields_of_settled {target incoming : List (String × Value)}
    (settled : ∀ field ∈ incoming, Fields.value? target field.1 = some field.2 ∧
      onto field.2 (some field.2) = field.2) : mergeFields target incoming = target := by
  induction incoming with
  | nil => rw [mergeFields]
  | cons field rest ih =>
    obtain ⟨key, value⟩ := field
    rw [List.forall_mem_cons] at settled
    obtain ⟨⟨found, same⟩, settled⟩ := settled
    rw [mergeFields, found, same, Fields.put_of_value? found]
    exact ih settled

theorem Distinct.onto_self {value : Value} (distinct : value.Distinct) :
    onto value (some value) = value := by
  induction distinct with
  | plain isPlain => exact onto_of_plain isPlain _
  | object names inside ih =>
    rw [onto_object]
    congr 1
    apply mergeFields_of_settled
    intro field member
    exact ⟨(Fields.value?_eq_some_iff names).mpr member, ih field member⟩

end Value

namespace Properties

open Value (object)

theorem merge_nil (target : Properties) : target.merge [] = target := by
  rw [merge, Value.mergeFields]

theorem nil_merge {incoming : Properties} (names : (Fields.keys incoming).Nodup) :
    Properties.merge [] incoming = incoming := by
  rw [merge, Value.mergeFields_of_disjoint names (by simp [Fields.keys]), List.nil_append]

/-- A set that has objects where another one has them can be merged with it first. -/
theorem merge_merge {first second : Properties} (isFirst : (object first).Distinct)
    (isSecond : (object second).Distinct) (compatible : Value.Compatible (object first) (object second))
    (target : Properties) :
    (target.merge first).merge second = target.merge (first.merge second) := by
  have settled := compatible.onto_onto isFirst isSecond (some (object target))
  rw [Value.onto_object, Value.onto_object, Value.onto_object, Value.onto_object] at settled
  exact (Value.object.inj settled).symm

theorem merge_self {properties : Properties} (distinct : (object properties).Distinct) :
    properties.merge properties = properties := by
  have same := distinct.onto_self
  rw [Value.onto_object] at same
  exact Value.object.inj same

end Properties

end UiMarkup
