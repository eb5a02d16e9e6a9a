import UiMarkup.Files.Disk
import UiMarkup.Proofs.Files.Path
import UiMarkup.Proofs.Markup.Outcome

namespace UiMarkup.Disk

variable {disk : Disk}

theorem find_eq_ok_iff {path : String} {entry : FileTree} :
    disk.find path = .ok entry ↔ ∃ place, checkText path = .ok () ∧
      disk.walk path (Path.segments path) = .ok place ∧ disk.tree.at? place = some entry := by
  unfold find locate
  constructor
  · intro h
    obtain ⟨place, located, h⟩ := ok_of_bind h
    obtain ⟨⟨⟩, text, walked⟩ := ok_of_bind located
    refine ⟨place, text, walked, ?_⟩
    split at h
    · rename_i here
      cases h
      exact here
    · cases h
  · rintro ⟨place, text, walked, here⟩
    simp only [text, walked, here, Bind.bind, Except.bind]
    rfl

theorem exists?_eq_true_iff {path : String} :
    disk.exists? path = true ↔ ∃ place, disk.locate path = .ok place := by
  unfold exists?
  cases disk.locate path with
  | error fault => simp
  | ok place => simp

theorem ne_empty_of_checkText {path : String} (text : checkText path = .ok ()) : path ≠ "" := by
  rintro rfl
  cases text

theorem canonical_of_locate {path : String} {place : List String} (located : disk.locate path = .ok place) :
    disk.canonical path = .ok place := by
  obtain ⟨⟨⟩, text, walked⟩ := ok_of_bind located
  rw [canonical, if_neg (ne_empty_of_checkText text), walked]

theorem walk_of_canonical {path : String} {place : List String}
    (canonical : disk.canonical path = .ok place) :
    disk.walk path (Path.segments path) = .ok place := by
  unfold Disk.canonical at canonical
  split at canonical
  · cases canonical
  · exact canonical

/-- Where a part of a path leads: nowhere else, up, or down to an entry. -/
theorem follow_ok {place later : List String} {segment : String}
    (h : disk.follow place segment = .ok later) :
    (Path.isIdle segment = true ∧ later = place) ∨
      (segment = ".." ∧ later = place.dropLast) ∨
      (Path.isIdle segment = false ∧ segment ≠ ".." ∧ later = place ++ [segment]) := by
  unfold follow at h
  split at h
  · split at h
    · rename_i idle
      exact .inl ⟨idle, (Except.ok.inj h).symm⟩
    · rename_i busy
      split at h
      · rename_i up
        exact .inr (.inl ⟨up, (Except.ok.inj h).symm⟩)
      · rename_i down
        split at h
        · exact .inr (.inr ⟨Bool.eq_false_iff.mpr busy, down, (Except.ok.inj h).symm⟩)
        · cases h
  · cases h
  · cases h

theorem eq_of_follow_idle {place later : List String} (h : disk.follow place "" = .ok later) :
    later = place := by
  rcases follow_ok h with ⟨_, same⟩ | ⟨up, _⟩ | ⟨busy, _⟩
  · exact same
  · exact absurd up (by decide)
  · exact absurd busy (by decide)

/-- Parts that lead nowhere up lead to the place below that has their names. -/
theorem eq_of_foldlM_follow {parts place later : List String} (level : ".." ∉ parts)
    (walked : parts.foldlM disk.follow place = .ok later) :
    later = place ++ parts.filter fun part => !Path.isIdle part := by
  induction parts generalizing place with
  | nil =>
    cases walked
    rw [List.filter_nil, List.append_nil]
  | cons part rest ih =>
    rw [List.foldlM_cons] at walked
    obtain ⟨next, followed, walked⟩ := ok_of_bind walked
    rw [ih (fun member => level (List.mem_cons_of_mem _ member)) walked]
    rcases follow_ok followed with ⟨idle, rfl⟩ | ⟨rfl, _⟩ | ⟨busy, _, rfl⟩
    · rw [List.filter_cons_of_neg (by simp [idle])]
    · exact absurd List.mem_cons_self level
    · rw [List.filter_cons_of_pos (by simp [busy]), List.append_assoc, List.singleton_append]

theorem foldlM_follow {place rest : List String} {tree entry : FileTree}
    (here : disk.tree.at? place = some tree) (found : tree.at? rest = some entry)
    (named : ∀ name ∈ rest, IsEntryName name) :
    rest.foldlM disk.follow place = .ok (place ++ rest) := by
  induction rest generalizing place tree with
  | nil =>
    rw [List.append_nil]
    rfl
  | cons name rest ih =>
    rw [FileTree.at?_cons] at found
    obtain ⟨inner, isEntry, found⟩ := Option.bind_eq_some_iff.mp found
    have entryName := named name List.mem_cons_self
    have step : disk.follow place name = .ok (place ++ [name]) := by
      cases tree with
      | file bytes => cases isEntry
      | directory entries =>
        have has : Fields.has entries name = true := by
          rw [Fields.has]
          exact Option.isSome_iff_exists.mpr ⟨inner, isEntry⟩
        unfold follow
        rw [here]
        simp [entryName.busy, entryName.down, has]
    have below : disk.tree.at? (place ++ [name]) = some inner := by
      rw [FileTree.at?_append, here, Option.bind_some, FileTree.at?_cons, isEntry]
      rfl
    have behind := ih below found fun other member => named other (List.mem_cons_of_mem _ member)
    rw [List.append_assoc] at behind
    rw [List.foldlM_cons, step]
    exact behind

theorem find_join {target : String} {place : List String} {tree entry : FileTree}
    (found : disk.find target = .ok tree) (there : tree.at? place = some entry) (filled : place ≠ [])
    (named : ∀ name ∈ place, IsEntryName name)
    (text : checkText (Path.join target (String.intercalate "/" place)) = .ok ()) :
    disk.find (Path.join target (String.intercalate "/" place)) = .ok entry := by
  obtain ⟨above, targetText, walked, here⟩ := find_eq_ok_iff.mp found
  have some_target := ne_empty_of_checkText targetText
  have relative := Path.isAbsolute_intercalate filled named
  obtain ⟨kept, whole, parts⟩ := Path.segments_join relative some_target
  have reached : kept.foldlM disk.follow (disk.start target) = .ok above := by
    unfold walk at walked
    rcases parts with same | same
    · rwa [same] at walked
    · -- the empty part behind a slash at the end leads nowhere else
      rw [same, List.foldlM_append] at walked
      obtain ⟨before, first, last⟩ := ok_of_bind walked
      obtain ⟨after, idle, done⟩ := ok_of_bind last
      cases done
      rwa [eq_of_follow_idle idle]
  rw [find_eq_ok_iff]
  refine ⟨above ++ place, text, ?_, ?_⟩
  · rw [walk, start, Path.isAbsolute_join relative some_target, whole,
      Path.segments_intercalate filled named, List.foldlM_append]
    change (kept.foldlM disk.follow (disk.start target) >>= _) = _
    rw [reached]
    exact foldlM_follow here there named
  · rw [FileTree.at?_append, here]
    exact there

end UiMarkup.Disk
