namespace UiMarkup

abbrev Fields (α : Type u) := List (String × α)

namespace Fields

variable {κ : Type v} [DecidableEq κ] {α : Type u}

def value? : List (κ × α) → κ → Option α
  | [], _ => none
  | (key, value) :: rest, name => if key = name then some value else value? rest name

/-- Sets the value under a name: in place if the name is there, else at the end. -/
def put : List (κ × α) → κ → α → List (κ × α)
  | [], name, value => [(name, value)]
  | (key, old) :: rest, name, value =>
    if key = name then (key, value) :: rest else (key, old) :: put rest name value

def without : List (κ × α) → κ → List (κ × α)
  | [], _ => []
  | (key, value) :: rest, name => if key = name then rest else (key, value) :: without rest name

def keys (fields : List (κ × α)) : List κ :=
  fields.map Prod.fst

def has (fields : List (κ × α)) (name : κ) : Bool :=
  (value? fields name).isSome

/-- The fields given by a list of pairs; of several values for a name the last one counts. -/
def ofPairs (pairs : List (κ × α)) : List (κ × α) :=
  pairs.foldl (fun fields (name, value) => put fields name value) []

@[simp] theorem value?_nil (name : κ) : value? ([] : List (κ × α)) name = none := rfl

theorem value?_put_self (fields : List (κ × α)) (name : κ) (value : α) :
    value? (put fields name value) name = some value := by
  induction fields with
  | nil => simp [put, value?]
  | cons field rest ih =>
    obtain ⟨key, old⟩ := field
    by_cases same : key = name <;> simp [put, value?, same, ih]

theorem value?_put_of_ne (fields : List (κ × α)) {name other : κ} (value : α) (ne : other ≠ name) :
    value? (put fields name value) other = value? fields other := by
  induction fields with
  | nil => simp [put, value?, ne.symm]
  | cons field rest ih =>
    obtain ⟨key, old⟩ := field
    by_cases same : key = name
    · subst same
      simp [put, value?, ne.symm]
    · by_cases found : key = other
      · subst found
        simp [put, value?, same]
      · simp [put, value?, same, found, ih]

theorem keys_put (fields : List (κ × α)) (name : κ) (value : α) :
    keys (put fields name value) = if name ∈ keys fields then keys fields else keys fields ++ [name] := by
  induction fields with
  | nil => simp [put, keys]
  | cons field rest ih =>
    obtain ⟨key, old⟩ := field
    by_cases same : key = name
    · simp [put, keys, same]
    · have there : name ∈ keys ((key, old) :: rest) ↔ name ∈ keys rest := by
        simp [keys, Ne.symm same]
      have step : keys (put ((key, old) :: rest) name value) = key :: keys (put rest name value) := by
        simp [put, keys, same]
      rw [step, ih]
      by_cases member : name ∈ keys rest <;> simp [there, member] <;> simp [keys]

theorem mem_put {fields : List (κ × α)} {name : κ} {value : α} {field : κ × α}
    (member : field ∈ put fields name value) : field ∈ fields ∨ field = (name, value) := by
  induction fields with
  | nil => exact .inr (List.mem_singleton.mp member)
  | cons first rest ih =>
    obtain ⟨key, old⟩ := first
    unfold put at member
    split at member
    · rename_i same
      rcases List.mem_cons.mp member with rfl | member
      · exact .inr (by rw [same])
      · exact .inl (List.mem_cons_of_mem _ member)
    · rcases List.mem_cons.mp member with rfl | member
      · exact .inl List.mem_cons_self
      · exact (ih member).imp_left (List.mem_cons_of_mem _)

theorem mem_of_mem_without {fields : List (κ × α)} {name : κ} {field : κ × α}
    (member : field ∈ without fields name) : field ∈ fields := by
  induction fields with
  | nil => cases member
  | cons first rest ih =>
    obtain ⟨key, old⟩ := first
    unfold without at member
    split at member
    · exact List.mem_cons_of_mem _ member
    · rcases List.mem_cons.mp member with rfl | member
      · exact List.mem_cons_self
      · exact List.mem_cons_of_mem _ (ih member)

theorem mem_of_value? {fields : List (κ × α)} {name : κ} {value : α}
    (found : value? fields name = some value) : (name, value) ∈ fields := by
  induction fields with
  | nil => cases found
  | cons first rest ih =>
    obtain ⟨key, old⟩ := first
    unfold value? at found
    split at found
    · rename_i same
      cases found
      rw [same]
      exact List.mem_cons_self
    · exact List.mem_cons_of_mem _ (ih found)

end Fields

end UiMarkup
