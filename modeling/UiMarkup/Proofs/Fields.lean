import Mathlib.Data.List.Induction
import Mathlib.Data.List.Nodup
import UiMarkup.Fields

namespace UiMarkup

namespace Fields

variable {κ : Type v} [DecidableEq κ] {α : Type u}

theorem value?_eq_none_of_notMem {fields : List (κ × α)} {name : κ} (absent : name ∉ keys fields) :
    value? fields name = none := by
  induction fields with
  | nil => rfl
  | cons field rest ih =>
    obtain ⟨key, value⟩ := field
    simp only [keys, List.map_cons, List.mem_cons, not_or] at absent
    rw [value?, if_neg (Ne.symm absent.1)]
    exact ih absent.2

theorem value?_without_self {fields : List (κ × α)} (distinct : (keys fields).Nodup) (name : κ) :
    value? (without fields name) name = none := by
  induction fields with
  | nil => rfl
  | cons field rest ih =>
    obtain ⟨key, value⟩ := field
    rw [keys, List.map_cons, List.nodup_cons] at distinct
    by_cases same : key = name
    · subst same
      rw [without, if_pos rfl]
      exact value?_eq_none_of_notMem distinct.1
    · rw [without, if_neg same, value?, if_neg same]
      exact ih distinct.2

theorem value?_without_of_ne (fields : List (κ × α)) {name other : κ} (ne : other ≠ name) :
    value? (without fields name) other = value? fields other := by
  induction fields with
  | nil => rfl
  | cons field rest ih =>
    obtain ⟨key, value⟩ := field
    by_cases same : key = name
    · subst same
      rw [without, if_pos rfl, value?, if_neg ne.symm]
    · rw [without, if_neg same, value?, value?, ih]

theorem value?_put (fields : List (κ × α)) (name : κ) (value : α) (other : κ) :
    value? (put fields name value) other = if other = name then some value else value? fields other := by
  split
  · rename_i same
    rw [same, value?_put_self]
  · rename_i ne
    exact value?_put_of_ne fields value ne

theorem value?_without {fields : List (κ × α)} (distinct : (keys fields).Nodup) (name other : κ) :
    value? (without fields name) other = if other = name then none else value? fields other := by
  split
  · rename_i same
    rw [same, value?_without_self distinct]
  · rename_i ne
    exact value?_without_of_ne fields ne

theorem mem_keys_iff {fields : List (κ × α)} {name : κ} :
    name ∈ keys fields ↔ ∃ value, value? fields name = some value := by
  induction fields with
  | nil => simp [keys]
  | cons field rest ih =>
    obtain ⟨key, value⟩ := field
    by_cases same : key = name
    · subst same
      simp [keys, value?]
    · rw [value?, if_neg same, ← ih]
      simp [keys, Ne.symm same]

theorem keys_without_sublist (fields : List (κ × α)) (name : κ) :
    (keys (without fields name)).Sublist (keys fields) := by
  induction fields with
  | nil => exact List.Sublist.slnil
  | cons field rest ih =>
    obtain ⟨key, value⟩ := field
    by_cases same : key = name
    · rw [without, if_pos same]
      exact List.sublist_cons_self key (keys rest)
    · rw [without, if_neg same]
      exact List.Sublist.cons_cons key ih

theorem mem_keys_put_iff {fields : List (κ × α)} {name other : κ} {value : α} :
    other ∈ keys (put fields name value) ↔ other ∈ keys fields ∨ other = name := by
  rw [keys_put]
  split
  · rename_i there
    constructor
    · exact .inl
    · rintro (member | rfl)
      · exact member
      · exact there
  · rw [List.mem_append, List.mem_singleton]

theorem nodup_keys_put {fields : List (κ × α)} (distinct : (keys fields).Nodup) (name : κ) (value : α) :
    (keys (put fields name value)).Nodup := by
  rw [keys_put]
  split
  · exact distinct
  · rename_i absent
    rw [List.nodup_append]
    refine ⟨distinct, List.nodup_singleton name, ?_⟩
    intro key member other single same
    rw [List.mem_singleton] at single
    exact absent (single ▸ same ▸ member)

theorem put_put_self (fields : List (κ × α)) (name : κ) (old value : α) :
    put (put fields name old) name value = put fields name value := by
  induction fields with
  | nil => simp [put]
  | cons field rest ih =>
    obtain ⟨key, present⟩ := field
    by_cases same : key = name
    · simp [put, same]
    · simp [put, same, ih]

theorem put_of_notMem {fields : List (κ × α)} {name : κ} (absent : name ∉ keys fields) (value : α) :
    put fields name value = fields ++ [(name, value)] := by
  induction fields with
  | nil => rfl
  | cons field rest ih =>
    obtain ⟨key, old⟩ := field
    simp only [keys, List.map_cons, List.mem_cons, not_or] at absent
    rw [put, if_neg (Ne.symm absent.1), ih absent.2, List.cons_append]

theorem put_of_value? {fields : List (κ × α)} {name : κ} {value : α}
    (found : value? fields name = some value) : put fields name value = fields := by
  induction fields with
  | nil => cases found
  | cons field rest ih =>
    obtain ⟨key, old⟩ := field
    by_cases same : key = name
    · rw [value?, if_pos same] at found
      cases found
      rw [put, if_pos same]
    · rw [value?, if_neg same] at found
      rw [put, if_neg same, ih found]

/-- A name that is there keeps its place, so it does not matter when its value is set. -/
theorem put_comm_of_mem {fields : List (κ × α)} {name other : κ} (there : name ∈ keys fields)
    (ne : other ≠ name) (value given : α) :
    put (put fields other given) name value = put (put fields name value) other given := by
  induction fields with
  | nil => cases there
  | cons field rest ih =>
    obtain ⟨key, old⟩ := field
    by_cases same : key = name
    · subst same
      simp [put, Ne.symm ne]
    · have behind : name ∈ keys rest := by
        simpa [keys, Ne.symm same] using there
      by_cases found : key = other
      · simp [put, found, ne]
      · simp [put, same, found, ih behind]

theorem value?_append (left right : List (κ × α)) (name : κ) :
    value? (left ++ right) name = (value? left name).or (value? right name) := by
  induction left with
  | nil => rfl
  | cons field rest ih =>
    obtain ⟨key, value⟩ := field
    by_cases same : key = name
    · simp [value?, same]
    · simp [value?, same, ih]

theorem value?_filter (keep : κ → Bool) (fields : List (κ × α)) {name : κ} (kept : keep name = true) :
    value? (fields.filter fun field => keep field.1) name = value? fields name := by
  induction fields with
  | nil => rfl
  | cons field rest ih =>
    obtain ⟨key, value⟩ := field
    by_cases stays : keep key = true
    · rw [List.filter_cons_of_pos (by simpa using stays), value?, value?, ih]
    · have other : key ≠ name := by
        rintro rfl
        exact stays kept
      rw [List.filter_cons_of_neg (by simpa using stays), ih, value?, if_neg other]

theorem value?_eq_some_iff {fields : List (κ × α)} (distinct : (keys fields).Nodup) {name : κ}
    {value : α} : value? fields name = some value ↔ (name, value) ∈ fields := by
  refine ⟨mem_of_value?, ?_⟩
  intro member
  induction fields with
  | nil => cases member
  | cons field rest ih =>
    obtain ⟨key, old⟩ := field
    rw [keys, List.map_cons, List.nodup_cons] at distinct
    rcases List.mem_cons.mp member with same | member
    · cases same
      simp [value?]
    · have other : key ≠ name := by
        rintro rfl
        exact distinct.1 (List.mem_map.mpr ⟨_, member, rfl⟩)
      rw [value?, if_neg other]
      exact ih distinct.2 member

theorem value?_perm {fields others : List (κ × α)} (distinct : (keys fields).Nodup)
    (same : fields.Perm others) (name : κ) : value? fields name = value? others name := by
  have alike : (keys others).Nodup := (same.map Prod.fst).nodup_iff.mp distinct
  ext value
  rw [value?_eq_some_iff distinct, value?_eq_some_iff alike, same.mem_iff]

def putAll (fields pairs : List (κ × α)) : List (κ × α) :=
  pairs.foldl (fun fields pair => put fields pair.1 pair.2) fields

theorem ofPairs_eq_putAll (pairs : List (κ × α)) : ofPairs pairs = putAll [] pairs := rfl

theorem putAll_append (fields left right : List (κ × α)) :
    putAll fields (left ++ right) = putAll (putAll fields left) right := by
  simp [putAll]

theorem putAll_concat (fields pairs : List (κ × α)) (pair : κ × α) :
    putAll fields (pairs ++ [pair]) = put (putAll fields pairs) pair.1 pair.2 := by
  simp [putAll]

theorem value?_putAll (fields pairs : List (κ × α)) (name : κ) :
    value? (putAll fields pairs) name = (value? pairs.reverse name).or (value? fields name) := by
  induction pairs using List.reverseRecOn with
  | nil => rfl
  | append_singleton pairs pair ih =>
    obtain ⟨key, value⟩ := pair
    rw [putAll_concat, value?_put, List.reverse_concat, value?]
    by_cases same : key = name
    · simp [same]
    · simp [same, Ne.symm same, ih]

theorem eraseDups_concat (names : List κ) (name : κ) :
    (names ++ [name]).eraseDups =
      if name ∈ names then names.eraseDups else names.eraseDups ++ [name] := by
  rw [List.eraseDups_append]
  by_cases there : name ∈ names
  · simp [List.removeAll, there]
  · simp [List.removeAll, there, List.eraseDups_cons]

theorem find?_eraseDups (names : List κ) (isFound : κ → Bool) :
    names.eraseDups.find? isFound = names.find? isFound := by
  induction names using List.reverseRecOn with
  | nil => rfl
  | append_singleton names name ih =>
    rw [eraseDups_concat, List.find?_append]
    split
    · rename_i there
      rw [ih]
      cases found : names.find? isFound with
      | some earlier => rfl
      | none =>
        rw [List.find?_cons_of_neg (List.find?_eq_none.mp found name there)]
        rfl
    · rw [List.find?_append, ih]

theorem keys_putAll (fields pairs : List (κ × α)) :
    keys (putAll fields pairs) =
      keys fields ++ (keys pairs).eraseDups.filter fun name => decide (name ∉ keys fields) := by
  induction pairs using List.reverseRecOn with
  | nil => simp [putAll, keys]
  | append_singleton pairs pair ih =>
    obtain ⟨name, value⟩ := pair
    have names : keys (pairs ++ [(name, value)]) = keys pairs ++ [name] := by simp [keys]
    rw [putAll_concat, keys_put, ih, names, eraseDups_concat]
    by_cases old : name ∈ keys fields
    · by_cases given : name ∈ keys pairs <;> simp [old, given, List.filter_append]
    · by_cases given : name ∈ keys pairs <;> simp [old, given, List.filter_append]

theorem keys_ofPairs (pairs : List (κ × α)) : keys (ofPairs pairs) = (keys pairs).eraseDups := by
  rw [ofPairs_eq_putAll, keys_putAll]
  simp [keys]

theorem value?_ofPairs (pairs : List (κ × α)) (name : κ) :
    value? (ofPairs pairs) name = value? pairs.reverse name := by
  rw [ofPairs_eq_putAll, value?_putAll, value?_nil, Option.or_none]

theorem nodup_keys_putAll {fields : List (κ × α)} (distinct : (keys fields).Nodup)
    (pairs : List (κ × α)) : (keys (putAll fields pairs)).Nodup := by
  induction pairs using List.reverseRecOn with
  | nil => exact distinct
  | append_singleton pairs pair ih =>
    rw [putAll_concat]
    exact nodup_keys_put ih pair.1 pair.2

theorem nodup_keys_ofPairs (pairs : List (κ × α)) : (keys (ofPairs pairs)).Nodup :=
  @nodup_keys_putAll _ _ _ [] List.nodup_nil pairs

theorem eraseDups_of_nodup {names : List κ} (distinct : names.Nodup) : names.eraseDups = names := by
  induction names using List.reverseRecOn with
  | nil => rfl
  | append_singleton names name ih =>
    rw [List.nodup_append] at distinct
    obtain ⟨earlier, _, apart⟩ := distinct
    have fresh : name ∉ names := fun member => apart name member name (List.mem_singleton_self name) rfl
    rw [eraseDups_concat, if_neg fresh, ih earlier]

end Fields

end UiMarkup
