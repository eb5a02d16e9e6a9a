import UiMarkup.Files.Disk
import UiMarkup.Proofs.Cache.Operations

namespace UiMarkup

namespace Cache

inductive Operation (α : Type) where
  | get
  | contains
  | epoch
  | put (value : α)
  | putIfCurrent (epoch : Nat) (value : α)
  | remove

inductive Answer (α : Type) where
  | value (found : Option α)
  | flag (holds : Bool)
  | count (epoch : Nat)
  | done

/-- Something that happens to a cache: an operation on behalf of a path, whose key is the one that the
files give it at the time, or dropping all values. -/
inductive Event (α : Type) where
  | on (disk : Disk) (path : String) (operation : Operation α)
  | clear

variable {α : Type}

def operate (cache : Cache α) (key : List String) : Operation α → Cache α × Answer α
  | .get => (cache, .value (cache.get? key))
  | .contains => (cache, .flag (cache.contains key))
  | .epoch => (cache, .count (cache.epoch key))
  | .put value => (cache.put key value, .done)
  | .putIfCurrent epoch value =>
    let (later, stored) := cache.putIfCurrent key epoch value
    (later, .flag stored)
  | .remove => (cache.evict key, .value (cache.get? key))

def step (cache : Cache α) : Event α → Cache α
  | .on disk path operation => (cache.operate (disk.key path) operation).1
  | .clear => cache.clear

def run (cache : Cache α) (history : List (Event α)) : Cache α :=
  history.foldl step cache

/-- Whether an event removes a key, be there a value under it or not. -/
def Event.removes (key : List String) : Event α → Bool
  | .on disk path .remove => disk.key path == key
  | _ => false

theorem epoch_putIfCurrent (cache : Cache α) (key other : List String) (epoch : Nat) (value : α) :
    (cache.putIfCurrent key epoch value).1.epoch other = cache.epoch other := by
  unfold putIfCurrent
  split <;> rfl

theorem epoch_evict_eq (cache : Cache α) (key other : List String) :
    (cache.evict key).epoch other = cache.epoch other + if key == other then 1 else 0 := by
  by_cases same : key = other
  · subst same
    rw [epoch_evict_self, if_pos (beq_self_eq_true key)]
  · rw [epoch_evict_of_ne cache (Ne.symm same), if_neg (by simpa using same), Nat.add_zero]

theorem epoch_step (cache : Cache α) (event : Event α) (key : List String) :
    (cache.step event).epoch key = cache.epoch key + if event.removes key then 1 else 0 := by
  cases event with
  | clear => rfl
  | on disk path operation =>
    cases operation with
    | putIfCurrent epoch value => exact epoch_putIfCurrent cache (disk.key path) key epoch value
    | remove => exact epoch_evict_eq cache (disk.key path) key
    | _ => rfl

theorem epoch_run (cache : Cache α) (history : List (Event α)) (key : List String) :
    (cache.run history).epoch key = cache.epoch key + history.countP (Event.removes key) := by
  induction history generalizing cache with
  | nil => rfl
  | cons event rest ih =>
    calc (cache.run (event :: rest)).epoch key
        = (cache.step event).epoch key + rest.countP (Event.removes key) := ih (cache.step event)
      _ = cache.epoch key + (event :: rest).countP (Event.removes key) := by
        rw [epoch_step, List.countP_cons]
        omega

theorem epoch_run_eq_iff (cache : Cache α) (history : List (Event α)) (key : List String) :
    (cache.run history).epoch key = cache.epoch key ↔
      ∀ event ∈ history, event.removes key = false := by
  rw [epoch_run, Nat.add_eq_left, List.countP_eq_zero]
  simp only [Bool.not_eq_true]

/-- A value is stored under an epoch that was taken before a history exactly if the key was not
removed in it. It then stands under the key, and nothing else changes; otherwise nothing changes at
all. The files may change on the way, as long as the path has the same key at both ends. Epochs are
counted without a bound: for a counter of 64 bits this is so of histories with fewer than `2 ^ 64`
removals. -/
theorem stored_iff_not_removed (cache : Cache α) {before after : Disk} {path : String}
    (same : after.key path = before.key path) (history : List (Event α)) (value : α) :
    let key := before.key path
    let later := cache.run history
    let outcome := later.putIfCurrent (after.key path) (cache.epoch key) value
    (outcome.2 = true ↔ ∀ event ∈ history, event.removes key = false) ∧
    (outcome.2 = true → outcome.1 = later.put key value ∧ outcome.1.get? key = some value) ∧
    (outcome.2 = false → outcome.1 = later) := by
  intro key later outcome
  have unchanged := epoch_run_eq_iff cache history key
  by_cases current : later.epoch key = cache.epoch key
  · have stored : outcome = (later.put key value, true) := by
      change later.putIfCurrent (after.key path) (cache.epoch key) value = _
      rw [same, ← current]
      exact putIfCurrent_epoch later key value
    rw [stored]
    refine ⟨iff_of_true rfl (unchanged.mp current), ?_, ?_⟩
    · intro _
      exact ⟨rfl, get?_put_self later key value⟩
    · intro refused
      cases refused
  · have refused : outcome = (later, false) := by
      change later.putIfCurrent (after.key path) (cache.epoch key) value = _
      rw [same]
      exact putIfCurrent_of_ne (Ne.symm current) value
    rw [refused]
    refine ⟨iff_of_false Bool.false_ne_true (fun none => current (unchanged.mpr none)), ?_, ?_⟩
    · intro stored
      cases stored
    · intro _
      rfl

/-- Another file is removed, the file itself is created, and the cache is cleared: all this does not
count. Removing the file counts, under whatever path. -/
theorem stored_iff_not_removed_created :
    let before := Disk.emptyAt ["w"]
    let after := before.place "a" (.file [])
    let cache : Cache Nat := empty.put (before.key "a") 1
    let harmless : List (Event Nat) := [.on before "b" .remove, .on after "./a" .get, .clear]
    after.key "a" = before.key "a" ∧
      ((cache.run harmless).putIfCurrent (after.key "a") (cache.epoch (before.key "a")) 2).2 = true ∧
      ((cache.run (harmless ++ [.on after "/w//a/" .remove])).putIfCurrent (after.key "a")
        (cache.epoch (before.key "a")) 2).2 = false := by
  intro before after cache harmless
  have same : after.key "a" = before.key "a" := by decide +kernel
  have kept : ∀ event ∈ harmless, event.removes (before.key "a") = false := by
    have each : harmless.all (fun event => !event.removes (before.key "a")) = true := by decide +kernel
    simpa using each
  have gone : (Event.on after "/w//a/" .remove : Event Nat).removes (before.key "a") = true := by
    decide +kernel
  refine ⟨same, ?_, ?_⟩
  · exact (stored_iff_not_removed cache same harmless 2).1.mpr kept
  · rw [Bool.eq_false_iff]
    intro stored
    have none := (stored_iff_not_removed cache same _ 2).1.mp stored
      (.on after "/w//a/" .remove) (by simp)
    rw [gone] at none
    cases none

/-- Clearing the cache drops the value, and yet one with an older epoch takes its place. -/
theorem stored_after_clear :
    let key := (Disk.emptyAt ["w"]).key "a"
    let cache : Cache Nat := empty.put key 1
    let later := cache.run [.clear]
    cache.get? key = some 1 ∧ later.get? key = none ∧
      later.putIfCurrent key (cache.epoch key) 2 = (later.put key 2, true) := by
  intro key cache later
  refine ⟨get?_put_self empty key 1, rfl, ?_⟩
  exact putIfCurrent_epoch later key 2

end Cache

end UiMarkup
