import UiMarkup.Files.Path
import UiMarkup.Files.Tree
import UiMarkup.Proofs.Fields

namespace UiMarkup

structure IsEntryName (name : String) : Prop where
  busy : Path.isIdle name = false
  down : name ≠ ".."
  single : '/' ∉ name.toList

instance (name : String) : Decidable (IsEntryName name) :=
  decidable_of_iff (Path.isIdle name = false ∧ name ≠ ".." ∧ '/' ∉ name.toList)
    ⟨fun parts => ⟨parts.1, parts.2.1, parts.2.2⟩, fun entry => ⟨entry.busy, entry.down, entry.single⟩⟩

namespace FileTree

/-- In each directory of the tree the entries have names, and different ones. -/
def Proper (tree : FileTree) : Prop :=
  ∀ place entries, tree.at? place = some (directory entries) →
    (Fields.keys entries).Nodup ∧ ∀ name ∈ Fields.keys entries, IsEntryName name

theorem at?_cons (tree : FileTree) (name : String) (rest : List String) :
    tree.at? (name :: rest) = (Fields.value? tree.entries name).bind fun entry => entry.at? rest :=
  rfl

theorem at?_append (tree : FileTree) (left right : List String) :
    tree.at? (left ++ right) = (tree.at? left).bind fun entry => entry.at? right := by
  induction left generalizing tree with
  | nil => rfl
  | cons name rest ih =>
    rw [List.cons_append, at?_cons, at?_cons]
    cases Fields.value? tree.entries name with
    | none => rfl
    | some entry => exact ih entry

theorem at?_file_eq_some_iff {bytes : List UInt8} {place : List String} {entry : FileTree} :
    (file bytes).at? place = some entry ↔ place = [] ∧ file bytes = entry := by
  cases place with
  | nil => simp [at?]
  | cons name rest => simp [at?_cons, entries]

theorem Proper.inside {entries : List (String × FileTree)} {name : String} {entry : FileTree}
    (proper : Proper (directory entries)) (member : (name, entry) ∈ entries) : Proper entry := by
  obtain ⟨distinct, _⟩ := proper [] entries rfl
  have found := (Fields.value?_eq_some_iff distinct).mpr member
  intro place inner there
  apply proper (name :: place) inner
  rw [at?_cons, FileTree.entries, found]
  exact there

theorem Proper.isEntryName {tree : FileTree} {place : List String} {entry : FileTree}
    (proper : tree.Proper) (found : tree.at? place = some entry) :
    ∀ name ∈ place, IsEntryName name := by
  induction place generalizing tree with
  | nil => simp
  | cons name rest ih =>
    rw [at?_cons] at found
    obtain ⟨inner, here, below⟩ := Option.bind_eq_some_iff.mp found
    have member := Fields.mem_of_value? here
    cases tree with
    | file bytes => cases member
    | directory entries =>
      intro other among
      rcases List.mem_cons.mp among with rfl | among
      · exact (proper [] entries rfl).2 other (Fields.mem_keys_iff.mpr ⟨inner, here⟩)
      · exact ih (proper.inside member) below other among

theorem proper_file (bytes : List UInt8) : Proper (file bytes) := by
  intro place entries found
  cases (at?_file_eq_some_iff.mp found).2

theorem proper_directory {entries : List (String × FileTree)} (distinct : (Fields.keys entries).Nodup)
    (named : ∀ name ∈ Fields.keys entries, IsEntryName name)
    (inside : ∀ entry ∈ entries, Proper entry.2) : Proper (directory entries) := by
  intro place inner found
  cases place with
  | nil =>
    cases found
    exact ⟨distinct, named⟩
  | cons name rest =>
    rw [at?_cons] at found
    obtain ⟨entry, here, found⟩ := Option.bind_eq_some_iff.mp found
    exact inside _ (Fields.mem_of_value? here) rest inner found

@[elab_as_elim]
theorem induction {motive : FileTree → Prop} (isFile : ∀ bytes, motive (file bytes))
    (isDirectory : ∀ entries : List (String × FileTree), (∀ entry ∈ entries, motive entry.2) →
      motive (directory entries)) (tree : FileTree) : motive tree := by
  refine @FileTree.rec motive (fun entries => ∀ entry ∈ entries, motive entry.2)
    (fun entry => motive entry.2) isFile isDirectory ?_ ?_ ?_ tree
  · simp
  · intro first rest here inside entry member
    rcases List.mem_cons.mp member with rfl | member
    · exact here
    · exact inside entry member
  · intro name entry here
    exact here

theorem filesIn_eq_flatMap (place : List String) (entries : List (String × FileTree)) :
    filesIn place entries = entries.flatMap fun entry => filesFrom (place ++ [entry.1]) entry.2 := by
  induction entries with
  | nil => rfl
  | cons entry rest ih =>
    obtain ⟨name, inner⟩ := entry
    rw [filesIn, ih, List.flatMap_cons]

theorem filesFrom_eq_map (place : List String) (tree : FileTree) :
    filesFrom place tree = tree.files.map (place ++ ·) := by
  induction tree using FileTree.induction generalizing place with
  | isFile bytes => simp [files, filesFrom]
  | isDirectory entries inside =>
    have each (above : List String) (entry : String × FileTree) (member : entry ∈ entries) :
        filesFrom (above ++ [entry.1]) entry.2 = entry.2.files.map (above ++ entry.1 :: ·) := by
      rw [inside entry member]
      simp
    rw [files, filesFrom, filesFrom, filesIn_eq_flatMap, filesIn_eq_flatMap, List.map_flatMap]
    apply List.flatMap_congr
    intro entry member
    rw [each place entry member, each [] entry member, List.map_map]
    rfl

theorem files_directory (entries : List (String × FileTree)) :
    (directory entries).files = entries.flatMap fun entry => entry.2.files.map (entry.1 :: ·) := by
  rw [files, filesFrom, filesIn_eq_flatMap]
  apply List.flatMap_congr
  intro entry _
  rw [filesFrom_eq_map]
  rfl

theorem mem_files_iff {tree : FileTree} (proper : tree.Proper) {place : List String} :
    place ∈ tree.files ↔ ∃ bytes, tree.at? place = some (file bytes) := by
  induction tree using FileTree.induction generalizing place with
  | isFile bytes =>
    simp [files, filesFrom, at?_file_eq_some_iff]
  | isDirectory entries inside =>
    obtain ⟨distinct, _⟩ := proper [] entries rfl
    rw [files_directory, List.mem_flatMap]
    constructor
    · rintro ⟨⟨name, inner⟩, member, here⟩
      obtain ⟨rest, below, rfl⟩ := List.mem_map.mp here
      obtain ⟨bytes, found⟩ := (inside _ member (proper.inside member)).mp below
      refine ⟨bytes, ?_⟩
      rw [at?_cons, FileTree.entries, (Fields.value?_eq_some_iff distinct).mpr member]
      exact found
    · rintro ⟨bytes, found⟩
      cases place with
      | nil => cases found
      | cons name rest =>
        rw [at?_cons, FileTree.entries] at found
        obtain ⟨inner, here, found⟩ := Option.bind_eq_some_iff.mp found
        have member := Fields.mem_of_value? here
        have below := (inside _ member (proper.inside member)).mpr ⟨bytes, found⟩
        exact ⟨(name, inner), member, List.mem_map_of_mem below⟩

theorem nodup_files {tree : FileTree} (proper : tree.Proper) : tree.files.Nodup := by
  induction tree using FileTree.induction with
  | isFile bytes => exact List.nodup_singleton []
  | isDirectory entries inside =>
    obtain ⟨distinct, _⟩ := proper [] entries rfl
    rw [files_directory, List.nodup_flatMap]
    constructor
    · intro entry member
      exact (inside entry member (proper.inside member)).map (List.cons_injective)
    · -- places of different entries start with different names
      have different : entries.Pairwise fun first second => first.1 ≠ second.1 :=
        List.pairwise_map.mp distinct
      refine different.imp ?_
      intro first second apart place left right
      obtain ⟨_, _, rfl⟩ := List.mem_map.mp left
      obtain ⟨_, _, same⟩ := List.mem_map.mp right
      exact apart (List.cons.inj same).1.symm

end FileTree

end UiMarkup
