import UiMarkup.Fields

namespace UiMarkup

/-- Cached values and epochs, under the names of the files' absolute paths. An epoch counts the
evictions of a key without a bound; a counter of 64 bits tells the same epochs apart as long as a key
is evicted fewer than `2 ^ 64` times. -/
structure Cache (α : Type) where
  entries : List (List String × α)
  epochs : List (List String × Nat)

namespace Cache

variable {α : Type}

def empty : Cache α := ⟨[], []⟩

def get? (cache : Cache α) (key : List String) : Option α :=
  Fields.value? cache.entries key

def contains (cache : Cache α) (key : List String) : Bool :=
  (cache.get? key).isSome

def size (cache : Cache α) : Nat :=
  cache.entries.length

def epoch (cache : Cache α) (key : List String) : Nat :=
  (Fields.value? cache.epochs key).getD 0

def put (cache : Cache α) (key : List String) (value : α) : Cache α :=
  { cache with entries := Fields.put cache.entries key value }

def putIfCurrent (cache : Cache α) (key : List String) (epoch : Nat) (value : α) : Cache α × Bool :=
  if cache.epoch key = epoch then (cache.put key value, true) else (cache, false)

def evict (cache : Cache α) (key : List String) : Cache α :=
  { entries := Fields.without cache.entries key
    epochs := Fields.put cache.epochs key (cache.epoch key + 1) }

/-- Drops all values. The epochs stay as they are. -/
def clear (cache : Cache α) : Cache α :=
  { cache with entries := [] }

end Cache

end UiMarkup
