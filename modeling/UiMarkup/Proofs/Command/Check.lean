import UiMarkup.Command.Run
import UiMarkup.Proofs.Files.Disk
import UiMarkup.Proofs.Text.Bytes

namespace UiMarkup

theorem Watcher.precedes_iff {left right : List String} :
    Watcher.precedes left right = true ↔ ¬ right < left := by
  induction left generalizing right with
  | nil => simp [precedes]
  | cons a left ih =>
    cases right with
    | nil => simp [precedes]
    | cons b right =>
      rw [precedes, List.cons_lt_cons_iff]
      by_cases same : a = b
      · subst same
        simp [ih]
      · simp only [same, if_false, decide_eq_true_eq]
        constructor
        · intro less
          rintro (greater | ⟨rfl, _⟩)
          · exact absurd less (not_lt_of_gt greater)
          · exact same rfl
        · intro other
          have notGreater : ¬ b < a := fun greater => other (.inl greater)
          exact lt_of_le_of_ne (not_lt.mp notGreater) same

namespace Templates

def Extends (extensions : List String) (name : String) : Prop :=
  ∃ stem written, stem ≠ "" ∧ name = stem ++ "." ++ written ∧ '.' ∉ written.toList ∧
    ∃ extension ∈ extensions, Text.sameLetters extension written = true

theorem hasExtension_iff {extensions front : List String} {name : String}
    (named : ∀ other ∈ front ++ [name], IsEntryName other) :
    hasExtension extensions (Path.ofNames (front ++ [name])) = true ↔ Extends extensions name := by
  unfold hasExtension
  rw [Path.extension?_ofNames named]
  constructor
  · intro found
    split at found
    · rename_i written isWritten
      obtain ⟨stem, filled, parts, without⟩ := Path.extensionOf?_eq_some_iff.mp isWritten
      exact ⟨stem, written, filled, parts, without, List.any_eq_true.mp found⟩
    · cases found
  · rintro ⟨stem, written, filled, parts, without, listed⟩
    rw [Path.extensionOf?_eq_some_iff.mpr ⟨stem, filled, parts, without⟩]
    exact List.any_eq_true.mpr listed

section Below

variable {entries : List (String × FileTree)} {extensions : List String}

theorem mem_below_iff (proper : (FileTree.directory entries).Proper) {place : List String} :
    place ∈ below (.directory entries) extensions ↔
      ∃ bytes front name, (FileTree.directory entries).at? place = some (.file bytes) ∧
        place = front ++ [name] ∧ Extends extensions name := by
  have listed : place ∈ below (.directory entries) extensions ↔
      (∃ bytes, (FileTree.directory entries).at? place = some (.file bytes)) ∧
        hasExtension extensions (Path.ofNames place) = true := by
    rw [below, (List.mergeSort_perm _ _).mem_iff, List.mem_filter, FileTree.mem_files_iff proper]
  rw [listed]
  constructor
  · rintro ⟨⟨bytes, found⟩, has⟩
    rcases List.eq_nil_or_concat' place with rfl | ⟨front, name, rfl⟩
    · cases found
    · rw [hasExtension_iff (proper.isEntryName found)] at has
      exact ⟨bytes, front, name, found, rfl, has⟩
  · rintro ⟨bytes, front, name, found, rfl, has⟩
    rw [hasExtension_iff (proper.isEntryName found)]
    exact ⟨⟨bytes, found⟩, has⟩

theorem pairwise_below (proper : (FileTree.directory entries).Proper) :
    (below (.directory entries) extensions).Pairwise (· < ·) := by
  have distinct : (below (.directory entries) extensions).Nodup :=
    (List.mergeSort_perm _ _).nodup_iff.mpr ((FileTree.nodup_files proper).filter _)
  have ascending : (below (.directory entries) extensions).Pairwise fun left right =>
      Watcher.precedes left right = true := by
    refine List.pairwise_mergeSort ?_ ?_ _
    · intro a b c first second
      rw [Watcher.precedes_iff, not_lt] at first second ⊢
      exact le_trans first second
    · intro a b
      rw [Bool.or_eq_true, Watcher.precedes_iff, Watcher.precedes_iff, not_lt, not_lt]
      exact le_total a b
  refine (ascending.and distinct).imp ?_
  rintro left right ⟨notAfter, ne⟩
  exact lt_of_le_of_ne (not_lt.mp (Watcher.precedes_iff.mp notAfter)) ne

end Below

theorem find_of_directory {disk : Disk} {target : String} {entries : List (String × FileTree)}
    (extensions : List String) (found : disk.find target = .ok (.directory entries)) :
    find disk target extensions = .ok ((below (.directory entries) extensions).map fun place =>
      Path.join target (String.intercalate "/" place)) := by
  rw [find, found]

theorem names_of_mem_below {disk : Disk} {target : String} {entries : List (String × FileTree)}
    {extensions place : List String} (found : disk.find target = .ok (.directory entries))
    (proper : (FileTree.directory entries).Proper)
    (member : place ∈ below (.directory entries) extensions) :
    Path.names (Path.join target (String.intercalate "/" place)) = Path.names target ++ place := by
  obtain ⟨_, text, _, _⟩ := Disk.find_eq_ok_iff.mp found
  obtain ⟨bytes, front, name, there, rfl, _⟩ := (mem_below_iff proper).mp member
  exact Path.names_join (Disk.ne_empty_of_checkText text) (by simp) (proper.isEntryName there)

end Templates

theorem Disk.readSource_eq_ok_iff {disk : Disk} {path source : String} :
    disk.readSource path = .ok source ↔ disk.readText path = .ok source := by
  unfold readSource
  cases disk.readText path with
  | ok text => simp
  | error fault => cases fault <;> simp

namespace Setup

def Compiles (setup : Setup) (path : String) : Prop :=
  ∃ source template, setup.disk.readText path = .ok source ∧
    (Template.compile ⟨.empty, setup.disk.openPicture, Path.parent? path⟩
      (Overrides.merge setup.config.vars []) source).result = .ok template

theorem compiles_iff {setup : Setup} {path : String} :
    setup.Compiles path ↔
      ∃ template, (setup.session.compileFile (setup.overrides []) path).result = .ok template := by
  rw [Session.compileFile, Warned.result_bind, Warned.result_ofExcept]
  constructor
  · rintro ⟨source, template, read, compiled⟩
    have opened : setup.session.disk.readSource path = .ok source :=
      Disk.readSource_eq_ok_iff.mpr read
    exact ⟨template, by rw [opened]; exact compiled⟩
  · rintro ⟨template, h⟩
    obtain ⟨source, opened, compiled⟩ := ok_of_bind h
    exact ⟨source, template, Disk.readSource_eq_ok_iff.mp opened, compiled⟩

instance (setup : Setup) (path : String) : Decidable (setup.Compiles path) :=
  match compiled : (setup.session.compileFile (setup.overrides []) path).result with
  | .ok template => .isTrue (compiles_iff.mpr ⟨template, compiled⟩)
  | .error _ => .isFalse fun compiles => by
    obtain ⟨template, other⟩ := compiles_iff.mp compiles
    cases compiled.symm.trans other

theorem length_faults (setup : Setup) (files : List String) :
    (faults (setup.compileEach files)).length =
      files.countP fun path => decide (¬ setup.Compiles path) := by
  induction files with
  | nil => rfl
  | cons file rest ih =>
    rw [List.countP_cons, ← ih, compileEach, faults, List.map_cons, List.filterMap_cons]
    cases compiled : (setup.session.compileFile (setup.overrides []) file).result with
    | ok template =>
      have compiles : setup.Compiles file := compiles_iff.mpr ⟨template, compiled⟩
      simp [compiled, compiles, faults, compileEach]
    | error e =>
      have fails : ¬ setup.Compiles file := by
        intro compiles
        obtain ⟨template, other⟩ := compiles_iff.mp compiles
        cases compiled.symm.trans other
      simp [compiled, fails, faults, compileEach]

theorem faults_eq_nil_iff {setup : Setup} {files : List String} :
    faults (setup.compileEach files) = [] ↔ ∀ path ∈ files, setup.Compiles path := by
  rw [← List.length_eq_zero_iff, length_faults, List.countP_eq_zero]
  simp

theorem failure_check {setup : Setup} {target : String} {paths : List String}
    (found : Templates.find setup.disk target setup.config.extensions = .ok paths) :
    (setup.check target).failure =
      if ∀ path ∈ paths, setup.Compiles path then none
      else some (.checkFailed (paths.countP fun path => decide (¬ setup.Compiles path))) := by
  rw [← length_faults, check, found]
  cases paths with
  | nil => simp
  | cons path rest =>
    simp only [← faults_eq_nil_iff]
    cases faults (setup.compileEach (path :: rest)) with
    | nil => rfl
    | cons fault others => rfl

/-- The check of a directory looks at the files below it that have one of the extensions, at each of
them once and in the order of their paths, name by name; the check of a file looks at this file. It
succeeds if all of them compile, and else tells how many do not. -/
theorem check_exact (setup : Setup) (target : String) :
    (∀ entries extensions, setup.disk.find target = .ok (.directory entries) →
      (FileTree.directory entries).Proper →
      ∃ paths, Templates.find setup.disk target extensions = .ok paths ∧
        (paths.Pairwise fun first second =>
          (Path.names first).map Text.bytes < (Path.names second).map Text.bytes) ∧
        (∀ path, path ∈ paths ↔ ∃ front name bytes,
          (FileTree.directory entries).at? (front ++ [name]) = some (.file bytes) ∧
          Templates.Extends extensions name ∧
          path = Path.join target (String.intercalate "/" (front ++ [name]))) ∧
        ∀ front name bytes,
          (FileTree.directory entries).at? (front ++ [name]) = some (.file bytes) →
          Disk.checkText (Path.join target (String.intercalate "/" (front ++ [name]))) = .ok () →
          setup.disk.read (Path.join target (String.intercalate "/" (front ++ [name]))) = .ok bytes) ∧
    (∀ bytes extensions, setup.disk.find target = .ok (.file bytes) →
      Templates.find setup.disk target extensions = .ok [target]) ∧
    ∀ paths, Templates.find setup.disk target setup.config.extensions = .ok paths →
      ((setup.check target).failure = none ↔ ∀ path ∈ paths, setup.Compiles path) ∧
      ((setup.check target).failure ≠ none → (setup.check target).failure =
        some (.checkFailed (paths.countP fun path => decide (¬ setup.Compiles path)))) := by
  refine ⟨?_, ?_, ?_⟩
  · intro entries extensions found proper
    refine ⟨_, Templates.find_of_directory extensions found, ?_, ?_, ?_⟩
    · rw [List.pairwise_map]
      refine (Templates.pairwise_below proper).imp_of_mem ?_
      intro left right leftMember rightMember less
      rw [Templates.names_of_mem_below found proper leftMember,
        Templates.names_of_mem_below found proper rightMember]
      exact Text.map_bytes_lt (List.append_left_lt less)
    · intro path
      simp only [List.mem_map, Templates.mem_below_iff proper]
      constructor
      · rintro ⟨place, ⟨bytes, front, name, there, rfl, extended⟩, rfl⟩
        exact ⟨front, name, bytes, there, extended, rfl⟩
      · rintro ⟨front, name, bytes, there, extended, rfl⟩
        exact ⟨front ++ [name], ⟨bytes, front, name, there, rfl, extended⟩, rfl⟩
    · intro front name bytes there text
      have named := proper.isEntryName there
      rw [Disk.read, Disk.find_join found there (by simp) named text]
      rfl
  · intro bytes extensions found
    rw [Templates.find, found]
  · intro paths found
    rw [failure_check found]
    split
    · rename_i all
      exact ⟨iff_of_true rfl all, fun failed => absurd rfl failed⟩
    · rename_i some_fails
      exact ⟨iff_of_false (Option.some_ne_none _) some_fails, fun _ => rfl⟩

/-- A template that does not compile stands between a hidden file and a directory with a template's
extension. -/
theorem check_exact_menu :
    let entries := [(".html", FileTree.file []), ("menu.HTML", .file "<table/>".toUTF8.toList),
      ("old.html", .directory [("notes.md", .file [])])]
    let disk : Disk := ⟨.directory [("home", .directory [("ui", .directory entries)])], ["home"]⟩
    let setup : Setup := ⟨disk, .default, .choose none none⟩
    (∃ paths, Templates.find disk "ui" ["html"] = .ok paths ∧ "ui/menu.HTML" ∈ paths) ∧
    Templates.find disk "ui/old.html/notes.md" ["html"] = .ok ["ui/old.html/notes.md"] ∧
    (setup.check "ui").failure = some (.checkFailed 1) := by
  intro entries disk setup
  have proper : (FileTree.directory entries).Proper := by
    refine FileTree.proper_directory (by decide) (by decide) ?_
    intro entry member
    have cases : entry = (".html", .file []) ∨ entry = ("menu.HTML", .file "<table/>".toUTF8.toList) ∨
        entry = ("old.html", .directory [("notes.md", .file [])]) := by
      simpa [entries] using member
    rcases cases with rfl | rfl | rfl
    · exact FileTree.proper_file _
    · exact FileTree.proper_file _
    · refine FileTree.proper_directory (by decide) (by decide) ?_
      intro entry member
      rw [List.mem_singleton.mp member]
      exact FileTree.proper_file _
  obtain ⟨inDirectory, _, verdict⟩ := check_exact setup "ui"
  obtain ⟨_, asFile, _⟩ := check_exact setup "ui/old.html/notes.md"
  refine ⟨?_, asFile [] ["html"] rfl, ?_⟩
  · obtain ⟨paths, found, _, members, _⟩ := inDirectory entries ["html"] rfl proper
    refine ⟨paths, found, (members _).mpr ⟨[], "menu.HTML", _, rfl, ?_, by decide⟩⟩
    exact ⟨"menu", "HTML", by decide, by decide, by decide, "html", by decide, by decide⟩
  · have found : Templates.find disk "ui" setup.config.extensions = .ok ["ui/menu.HTML"] := by
      decide +kernel
    obtain ⟨succeeds, fails⟩ := verdict _ found
    have bad : ¬ ∀ path ∈ ["ui/menu.HTML"], setup.Compiles path := by
      decide +kernel
    have count : ["ui/menu.HTML"].countP (fun path => decide (¬ setup.Compiles path)) = 1 := by
      decide +kernel
    rw [← count]
    exact fails fun success => bad (succeeds.mp success)

end Setup

end UiMarkup
