import UiMarkup.Proofs.Files.Tree
import UiMarkup.Proofs.Text.Search
import UiMarkup.Proofs.Text.Spacing

namespace UiMarkup.Path

theorem segments_append (left right : String) :
    segments (left ++ "/" ++ right) = segments left ++ segments right := by
  have letters : (left ++ "/" ++ right).toList = left.toList ++ '/' :: right.toList := by simp
  rw [segments, letters, Text.splitWhere_append_cut (by decide), List.map_append]
  rfl

theorem segments_of_single {name : String} (single : '/' ∉ name.toList) : segments name = [name] := by
  have keep : ∀ c ∈ name.toList, (c == '/') = false := by
    intro c member
    rw [beq_eq_false_iff_ne]
    rintro rfl
    exact single member
  rw [segments, Text.splitWhere_of_keep keep, List.map_singleton, String.ofList_toList]

theorem single_of_mem_segments {path segment : String} (member : segment ∈ segments path) :
    '/' ∉ segment.toList := by
  obtain ⟨part, among, rfl⟩ := List.mem_map.mp member
  rw [String.toList_ofList]
  intro slash
  exact absurd (Text.not_cut_of_mem_splitWhere among '/' slash) (by decide)

theorem isEntryName_of_mem_names {path name : String} (level : ".." ∉ segments path)
    (member : name ∈ names path) : IsEntryName name := by
  obtain ⟨among, busy⟩ := List.mem_filter.mp member
  refine ⟨by simpa using busy, ?_, single_of_mem_segments among⟩
  rintro rfl
  exact level among

section Place

variable {place : List String}

theorem segments_intercalate (filled : place ≠ []) (named : ∀ name ∈ place, IsEntryName name) :
    segments (String.intercalate "/" place) = place := by
  induction place with
  | nil => exact absurd rfl filled
  | cons name rest ih =>
    have first := segments_of_single (named name List.mem_cons_self).single
    cases rest with
    | nil => rw [String.intercalate_singleton, first]
    | cons next rest =>
      have inside := ih (List.cons_ne_nil next rest)
        fun other member => named other (List.mem_cons_of_mem _ member)
      rw [String.intercalate_cons_cons, segments_append, first, inside]
      rfl

theorem names_of_entries (named : ∀ name ∈ place, IsEntryName name) :
    (place.filter fun segment => !isIdle segment) = place := by
  rw [List.filter_eq_self]
  intro name member
  rw [(named name member).busy]
  rfl

theorem names_intercalate (filled : place ≠ []) (named : ∀ name ∈ place, IsEntryName name) :
    names (String.intercalate "/" place) = place := by
  rw [names, segments_intercalate filled named, names_of_entries named]

theorem names_ofNames (named : ∀ name ∈ place, IsEntryName name) : names (ofNames place) = place := by
  have top : ofNames place = "" ++ "/" ++ String.intercalate "/" place := by simp [ofNames]
  rw [names, top, segments_append, List.filter_append]
  change names (String.intercalate "/" place) = place
  cases place with
  | nil => decide
  | cons name rest => exact names_intercalate (List.cons_ne_nil name rest) named

theorem ofNames_ne_empty (place : List String) : ofNames place ≠ "" := by
  rw [ne_eq, ← String.toList_eq_nil_iff]
  simp [ofNames]

theorem isAbsolute_ofNames (place : List String) : isAbsolute (ofNames place) = true := by
  simp [isAbsolute, ofNames]

theorem isAbsolute_intercalate (filled : place ≠ []) (named : ∀ name ∈ place, IsEntryName name) :
    isAbsolute (String.intercalate "/" place) = false := by
  obtain ⟨name, rest, rfl⟩ := List.exists_cons_of_ne_nil filled
  have entry := named name List.mem_cons_self
  have letters : (String.intercalate "/" (name :: rest)).toList.head? = name.toList.head? := by
    have some_letter : name.toList ≠ [] := by
      intro empty
      rw [String.toList_eq_nil_iff] at empty
      subst empty
      exact absurd entry.busy (by decide)
    obtain ⟨c, others, shape⟩ := List.exists_cons_of_ne_nil some_letter
    cases rest with
    | nil => rw [String.intercalate_singleton]
    | cons next rest => simp [shape]
  rw [isAbsolute, letters, beq_eq_false_iff_ne]
  intro slash
  exact entry.single (List.mem_of_mem_head? slash)

/-- The parts of the directory's path, a slash at its end aside, and then those of the other path. -/
theorem segments_join {directory path : String} (relative : isAbsolute path = false)
    (filled : directory ≠ "") :
    ∃ kept, segments (join directory path) = kept ++ segments path ∧
      (segments directory = kept ∨ segments directory = kept ++ [""]) := by
  unfold join
  rw [relative, beq_eq_false_iff_ne.mpr filled]
  by_cases closed : directory.toList.getLast? = some '/'
  · obtain ⟨front, shape⟩ := List.getLast?_eq_some_iff.mp closed
    have parts : directory = String.ofList front ++ "/" ++ "" := by
      apply String.toList_injective
      simp [shape]
    refine ⟨segments (String.ofList front), ?_, .inr ?_⟩
    · have whole : directory ++ path = String.ofList front ++ "/" ++ path := by
        rw [parts]
        simp
      simp [closed, whole, segments_append]
    · rw [parts, segments_append]
      rfl
  · refine ⟨segments directory, ?_, .inl rfl⟩
    simp [closed, segments_append]

theorem names_join_of_relative {directory path : String} (relative : isAbsolute path = false)
    (filled : directory ≠ "") : names (join directory path) = names directory ++ names path := by
  obtain ⟨kept, whole, parts⟩ := segments_join relative filled
  have front : (segments directory).filter (fun segment => !isIdle segment) =
      kept.filter fun segment => !isIdle segment := by
    rcases parts with same | same
    · rw [same]
    · rw [same, List.filter_append]
      simp [isIdle]
  rw [names, whole, List.filter_append, names, front, names]

theorem names_join {directory : String} (filled : directory ≠ "") (some_name : place ≠ [])
    (named : ∀ name ∈ place, IsEntryName name) :
    names (join directory (String.intercalate "/" place)) = names directory ++ place := by
  rw [names_join_of_relative (isAbsolute_intercalate some_name named) filled,
    names_intercalate some_name named]

theorem isAbsolute_join {directory path : String} (relative : isAbsolute path = false)
    (filled : directory ≠ "") : isAbsolute (join directory path) = isAbsolute directory := by
  have some_letter : directory.toList ≠ [] := by
    rwa [ne_eq, String.toList_eq_nil_iff]
  obtain ⟨c, others, shape⟩ := List.exists_cons_of_ne_nil some_letter
  unfold join
  rw [relative, beq_eq_false_iff_ne.mpr filled]
  split
  · rename_i impossible
    cases impossible
  · split
    · simp [isAbsolute, shape]
    · simp [isAbsolute, shape]

end Place

theorem extensionOf?_eq_some_iff {name extension : String} :
    extensionOf? name = some extension ↔
      ∃ stem, stem ≠ "" ∧ name = stem ++ "." ++ extension ∧ '.' ∉ extension.toList := by
  unfold extensionOf?
  constructor
  · intro found
    split at found
    · rename_i tail head cut
      obtain ⟨parts, without⟩ := Text.cutAt?_eq_some_iff.mp cut
      split at found
      · cases found
      · rename_i filled
        cases found
        refine ⟨String.ofList head.reverse, ?_, ?_, ?_⟩
        · intro empty
          apply filled
          simpa using congrArg String.toList empty
        · apply String.toList_injective
          have turned := congrArg List.reverse parts
          simpa using turned
        · simpa using without
    · cases found
  · rintro ⟨stem, filled, rfl, without⟩
    have cut : Text.cutAt? '.' (stem ++ "." ++ extension).toList.reverse =
        some (extension.toList.reverse, stem.toList.reverse) := by
      rw [Text.cutAt?_eq_some_iff]
      refine ⟨by simp, ?_⟩
      simpa using without
    rw [cut]
    simp [filled]

theorem extension?_ofNames {front : List String} {name : String}
    (named : ∀ other ∈ front ++ [name], IsEntryName other) :
    extension? (ofNames (front ++ [name])) = extensionOf? name := by
  have down : name ≠ ".." := (named name (by simp)).down
  rw [extension?, fileName?, names_ofNames named]
  simp [down]

end UiMarkup.Path
