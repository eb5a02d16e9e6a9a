import UiMarkup.Cache
import UiMarkup.Proofs.Fields

namespace UiMarkup

namespace Cache

variable {α : Type}

def Distinct (cache : Cache α) : Prop :=
  (Fields.keys cache.entries).Nodup

theorem distinct_empty : (empty : Cache α).Distinct :=
  List.nodup_nil

theorem Distinct.put {cache : Cache α} (distinct : cache.Distinct) (key : List String) (value : α) :
    (cache.put key value).Distinct :=
  Fields.nodup_keys_put distinct key value

theorem Distinct.evict {cache : Cache α} (distinct : cache.Distinct) (key : List String) :
    (cache.evict key).Distinct :=
  distinct.sublist (Fields.keys_without_sublist cache.entries key)

theorem get?_put_self (cache : Cache α) (key : List String) (value : α) :
    (cache.put key value).get? key = some value :=
  Fields.value?_put_self cache.entries key value

theorem get?_put_of_ne (cache : Cache α) {key other : List String} (value : α) (ne : other ≠ key) :
    (cache.put key value).get? other = cache.get? other :=
  Fields.value?_put_of_ne cache.entries value ne

theorem epoch_put (cache : Cache α) (key other : List String) (value : α) :
    (cache.put key value).epoch other = cache.epoch other :=
  rfl

theorem get?_evict_self {cache : Cache α} (distinct : cache.Distinct) (key : List String) :
    (cache.evict key).get? key = none :=
  Fields.value?_without_self distinct key

theorem get?_evict_of_ne (cache : Cache α) {key other : List String} (ne : other ≠ key) :
    (cache.evict key).get? other = cache.get? other :=
  Fields.value?_without_of_ne cache.entries ne

theorem epoch_evict_self (cache : Cache α) (key : List String) :
    (cache.evict key).epoch key = cache.epoch key + 1 := by
  rw [epoch, evict, Fields.value?_put_self]
  rfl

theorem epoch_evict_of_ne (cache : Cache α) {key other : List String} (ne : other ≠ key) :
    (cache.evict key).epoch other = cache.epoch other := by
  rw [epoch, evict, Fields.value?_put_of_ne cache.epochs _ ne]
  rfl

theorem epoch_le_epoch_evict (cache : Cache α) (key other : List String) :
    cache.epoch other ≤ (cache.evict key).epoch other := by
  by_cases same : other = key
  · subst same
    rw [epoch_evict_self]
    omega
  · exact Nat.le_of_eq (epoch_evict_of_ne cache same).symm

theorem putIfCurrent_of_ne {cache : Cache α} {key : List String} {epoch : Nat}
    (ne : epoch ≠ cache.epoch key) (value : α) :
    cache.putIfCurrent key epoch value = (cache, false) := by
  rw [putIfCurrent, if_neg (Ne.symm ne)]

theorem putIfCurrent_epoch (cache : Cache α) (key : List String) (value : α) :
    cache.putIfCurrent key (cache.epoch key) value = (cache.put key value, true) := by
  rw [putIfCurrent, if_pos rfl]

end Cache

end UiMarkup
