import UiMarkup.Proofs.Files.Disk

namespace UiMarkup

namespace FileSystem

variable {files : FileSystem} {place : List String}

def Proper (files : FileSystem) : Prop :=
  ∀ path place, files.canonical path = .ok place → ∀ name ∈ place, IsEntryName name

/-- No link leads from a place to another one. -/
def Linkless (files : FileSystem) : Prop :=
  ∀ place other, (∀ name ∈ place, IsEntryName name) →
    files.canonical (Path.ofNames place) = .ok other → other = place

theorem Linkless.keyAt_eq (linkless : files.Linkless) (named : ∀ name ∈ place, IsEntryName name) :
    files.keyAt place = place := by
  have written := Path.names_ofNames named
  unfold keyAt key knownAs
  cases canonical : files.canonical (Path.ofNames place) with
  | error fault =>
    simp only [Path.join, Path.isAbsolute_ofNames, Bool.true_or, if_true]
    exact written
  | ok other =>
    simp only
    rw [linkless place other named canonical, written]

end FileSystem

namespace Disk

variable {disk : Disk}

theorem linkless_system (disk : Disk) : disk.system.Linkless := by
  intro place other named canonical
  have level : ".." ∉ Path.segments (Path.ofNames place) := by
    intro up
    have member : ".." ∈ Path.names (Path.ofNames place) := List.mem_filter.mpr ⟨up, by decide⟩
    rw [Path.names_ofNames named] at member
    exact (named ".." member).down rfl
  have reached := eq_of_foldlM_follow level (walk_of_canonical canonical)
  rw [start, Path.isAbsolute_ofNames] at reached
  rw [reached]
  exact Path.names_ofNames named

theorem isEntryName_of_foldlM_follow {parts place later : List String}
    (single : ∀ part ∈ parts, '/' ∉ part.toList) (named : ∀ name ∈ place, IsEntryName name)
    (walked : parts.foldlM disk.follow place = .ok later) : ∀ name ∈ later, IsEntryName name := by
  induction parts generalizing place with
  | nil =>
    cases walked
    exact named
  | cons part rest ih =>
    rw [List.forall_mem_cons] at single
    rw [List.foldlM_cons] at walked
    obtain ⟨next, followed, walked⟩ := ok_of_bind walked
    apply ih single.2 _ walked
    rcases follow_ok followed with ⟨_, rfl⟩ | ⟨_, rfl⟩ | ⟨busy, down, rfl⟩
    · exact named
    · intro name member
      exact named name (List.mem_of_mem_dropLast member)
    · rw [List.forall_mem_append]
      exact ⟨named, List.forall_mem_singleton.mpr ⟨busy, down, single.1⟩⟩

theorem proper_system (canonical : ∀ name ∈ disk.here, IsEntryName name) : disk.system.Proper := by
  intro path place found
  apply isEntryName_of_foldlM_follow (fun part member => Path.single_of_mem_segments member) _
    (walk_of_canonical found)
  unfold start
  split
  · simp
  · exact canonical

end Disk

end UiMarkup
