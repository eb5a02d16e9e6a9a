import Mathlib.Data.List.Dedup
import UiMarkup.Proofs.Cache.Operations
import UiMarkup.Proofs.Files.Disk
import UiMarkup.Session

namespace UiMarkup

namespace Watcher

/-- The index has a name in a directory. -/
def Names (watcher : Watcher) (directory : List String) (name : String) : Prop :=
  ∃ names, Fields.value? watcher.directories directory = some names ∧ name ∈ names

structure Indexed (watcher : Watcher) : Prop where
  files : (Fields.keys watcher.files).Nodup
  directories : (Fields.keys watcher.directories).Nodup
  listed : ∀ file directory, Fields.value? watcher.files file = some directory ↔
    ∃ name, file = directory ++ [name] ∧ watcher.Names directory name
  inhabited : ∀ directory, Fields.value? watcher.directories directory ≠ some []
  running : ∀ file, watcher.isWatching file = true → watcher.running = true

variable {watcher : Watcher}

theorem isWatching_iff {file : List String} :
    watcher.isWatching file = true ↔ ∃ directory, Fields.value? watcher.files file = some directory := by
  rw [isWatching, Fields.has, Option.isSome_iff_exists]

theorem indexed_idle : idle.Indexed := by
  refine ⟨List.nodup_nil, List.nodup_nil, ?_, ?_, ?_⟩
  · intro file directory
    simp [idle, Names]
  · intro directory found
    cases found
  · intro file watched
    cases watched

theorem Indexed.withSubscribers (indexed : watcher.Indexed) (subscribers : List Subscriber) :
    Indexed { watcher with subscribers } :=
  ⟨indexed.files, indexed.directories, indexed.listed, indexed.inhabited, indexed.running⟩

theorem Indexed.start (indexed : watcher.Indexed) : Indexed { watcher with running := true } :=
  ⟨indexed.files, indexed.directories, indexed.listed, indexed.inhabited, fun _ _ => rfl⟩

theorem Indexed.stop (_ : watcher.Indexed) : watcher.stop.Indexed := by
  refine ⟨List.nodup_nil, List.nodup_nil, ?_, ?_, ?_⟩
  · intro file directory
    simp [Watcher.stop, Names]
  · intro directory found
    cases found
  · intro file watched
    cases watched

theorem Indexed.isWatching_concat_iff (indexed : watcher.Indexed) (directory : List String) (name : String) :
    watcher.isWatching (directory ++ [name]) = true ↔ watcher.Names directory name := by
  rw [isWatching_iff]
  constructor
  · rintro ⟨other, found⟩
    obtain ⟨own, same, named⟩ := (indexed.listed _ _).mp found
    obtain ⟨rfl, single⟩ := List.append_inj' same rfl
    cases single
    exact named
  · intro named
    exact ⟨directory, (indexed.listed _ _).mpr ⟨name, rfl, named⟩⟩

theorem Indexed.isWatching_nil (indexed : watcher.Indexed) : watcher.isWatching [] = false := by
  rw [Bool.eq_false_iff]
  intro watched
  obtain ⟨directory, found⟩ := isWatching_iff.mp watched
  obtain ⟨name, same, _⟩ := (indexed.listed _ _).mp found
  exact absurd same.symm (by simp)

section Register

theorem names_register (directory other : List String) (name own : String) :
    (watcher.register directory name).Names other own ↔
      watcher.Names other own ∨ (other = directory ∧ own = name) := by
  simp only [Names, register, Fields.value?_put]
  by_cases same : other = directory
  · subst same
    cases Fields.value? watcher.directories other with
    | none => simp
    | some names => simp
  · simp [same]

theorem Indexed.register (indexed : watcher.Indexed) (isRunning : watcher.running = true)
    (directory : List String) (name : String) : (watcher.register directory name).Indexed := by
  refine ⟨Fields.nodup_keys_put indexed.files _ _, Fields.nodup_keys_put indexed.directories _ _, ?_, ?_,
    fun _ _ => isRunning⟩
  · intro file other
    simp only [names_register]
    rw [Watcher.register, Fields.value?_put]
    by_cases same : file = directory ++ [name]
    · subst same
      rw [if_pos rfl, Option.some.injEq]
      constructor
      · rintro rfl
        exact ⟨name, rfl, .inr ⟨rfl, rfl⟩⟩
      · rintro ⟨own, parts, _⟩
        exact (List.append_inj' parts rfl).1
    · rw [if_neg same, indexed.listed]
      constructor
      · rintro ⟨own, rfl, named⟩
        exact ⟨own, rfl, .inl named⟩
      · rintro ⟨own, rfl, named | ⟨rfl, rfl⟩⟩
        · exact ⟨own, rfl, named⟩
        · exact absurd rfl same
  · intro other
    rw [Watcher.register, Fields.value?_put]
    split
    · simp
    · exact indexed.inhabited other

end Register

section Deregister

variable {directory : List String} {name : String}

theorem deregister_of_unwatched {file : List String} (unwatched : watcher.isWatching file = false) :
    watcher.deregister file = (watcher, false) := by
  have absent : Fields.value? watcher.files file = none := by
    simpa [isWatching, Fields.has] using unwatched
  rw [deregister, absent]

theorem deregister_concat {names : List String}
    (listed : Fields.value? watcher.files (directory ++ [name]) = some directory)
    (found : Fields.value? watcher.directories directory = some names) :
    watcher.deregister (directory ++ [name]) =
      ({ watcher with
        files := Fields.without watcher.files (directory ++ [name])
        directories :=
          if (names.filter (· ≠ name)).isEmpty then Fields.without watcher.directories directory
          else Fields.put watcher.directories directory (names.filter (· ≠ name)) }, true) := by
  rw [deregister, listed]
  simp [found]

theorem Indexed.value?_directories_deregister (indexed : watcher.Indexed) {names : List String}
    (found : Fields.value? watcher.directories directory = some names) (member : name ∈ names)
    (other : List String) :
    Fields.value? (watcher.deregister (directory ++ [name])).1.directories other =
      if other = directory then
        if (names.filter (· ≠ name)).isEmpty then none else some (names.filter (· ≠ name))
      else Fields.value? watcher.directories other := by
  have listed := (indexed.listed _ _).mpr ⟨name, rfl, names, found, member⟩
  rw [deregister_concat listed found]
  simp only
  by_cases isEmpty : (names.filter (· ≠ name)).isEmpty = true
  · rw [if_pos isEmpty, if_pos isEmpty, Fields.value?_without indexed.directories]
  · rw [if_neg isEmpty, if_neg isEmpty, Fields.value?_put]

theorem Indexed.names_deregister (indexed : watcher.Indexed) (named : watcher.Names directory name)
    (other : List String) (own : String) :
    (watcher.deregister (directory ++ [name])).1.Names other own ↔
      watcher.Names other own ∧ other ++ [own] ≠ directory ++ [name] := by
  obtain ⟨names, found, member⟩ := named
  simp only [Names, indexed.value?_directories_deregister found member]
  by_cases same : other = directory
  · subst same
    rw [if_pos rfl, found]
    -- What is left of the names is dropped exactly if nothing is left.
    have inside : (∃ left, (if (names.filter (· ≠ name)).isEmpty = true then none
        else some (names.filter (· ≠ name))) = some left ∧ own ∈ left) ↔ own ∈ names.filter (· ≠ name) := by
      split
      · rename_i isEmpty
        rw [List.isEmpty_iff.mp isEmpty]
        simp
      · simp
    rw [inside]
    simp
  · simp [same]

theorem Indexed.value?_files_deregister (indexed : watcher.Indexed) (file other : List String) :
    Fields.value? (watcher.deregister file).1.files other =
      if other = file then none else Fields.value? watcher.files other := by
  unfold deregister
  split
  · rename_i absent
    split
    · rename_i same
      rw [same, absent]
    · rfl
  · exact Fields.value?_without indexed.files file other

theorem Indexed.deregister (indexed : watcher.Indexed) (file : List String) :
    (watcher.deregister file).1.Indexed := by
  by_cases watched : watcher.isWatching file = true
  · obtain ⟨directory, isListed⟩ := isWatching_iff.mp watched
    obtain ⟨name, rfl, named⟩ := (indexed.listed _ _).mp isListed
    obtain ⟨names, found, member⟩ := id named
    have left := deregister_concat isListed found
    refine ⟨?_, ?_, ?_, ?_, ?_⟩
    · rw [left]
      exact indexed.files.sublist (Fields.keys_without_sublist _ _)
    · rw [left]
      simp only
      split
      · exact indexed.directories.sublist (Fields.keys_without_sublist _ _)
      · exact Fields.nodup_keys_put indexed.directories _ _
    · intro other parent
      simp only [indexed.names_deregister named]
      rw [indexed.value?_files_deregister]
      by_cases same : other = directory ++ [name]
      · rw [if_pos same]
        constructor
        · intro absent
          cases absent
        · rintro ⟨own, parts, _, others⟩
          exact absurd (parts.symm.trans same) others
      · rw [if_neg same, indexed.listed]
        constructor
        · rintro ⟨own, rfl, isNamed⟩
          exact ⟨own, rfl, isNamed, same⟩
        · rintro ⟨own, rfl, isNamed, _⟩
          exact ⟨own, rfl, isNamed⟩
    · intro other
      rw [indexed.value?_directories_deregister found member]
      split
      · split
        · simp
        · rename_i nonempty
          simpa using nonempty
      · exact indexed.inhabited other
    · intro _ _
      rw [left]
      exact indexed.running _ watched
  · rw [deregister_of_unwatched (Bool.eq_false_iff.mpr watched)]
    exact indexed

end Deregister

section Queries

theorem lookup?_concat_eq_some_iff {directory file : List String} {name : String} :
    watcher.lookup? (directory ++ [name]) = some file ↔
      file = directory ++ [name] ∧ watcher.Names directory name := by
  simp only [lookup?, List.getLast?_concat, List.dropLast_concat, Names]
  cases Fields.value? watcher.directories directory with
  | none => simp
  | some names => simp [and_comm, eq_comm]

/-- A place is found through the names of its directory exactly if it is watched. -/
theorem Indexed.lookup?_eq (indexed : watcher.Indexed) (place : List String) :
    watcher.lookup? place = if watcher.isWatching place = true then some place else none := by
  rcases List.eq_nil_or_concat' place with rfl | ⟨directory, name, rfl⟩
  · rw [indexed.isWatching_nil]
    rfl
  · by_cases watched : watcher.isWatching (directory ++ [name]) = true
    · rw [if_pos watched, lookup?_concat_eq_some_iff]
      exact ⟨rfl, (indexed.isWatching_concat_iff _ _).mp watched⟩
    · rw [if_neg watched, Option.eq_none_iff_forall_ne_some]
      intro file found
      exact watched ((indexed.isWatching_concat_iff _ _).mpr (lookup?_concat_eq_some_iff.mp found).2)

theorem Indexed.mem_keys_directories_iff (indexed : watcher.Indexed) (directory : List String) :
    directory ∈ Fields.keys watcher.directories ↔
      directory ∈ (Fields.keys watcher.files).map List.dropLast := by
  rw [Fields.mem_keys_iff, List.mem_map]
  constructor
  · rintro ⟨names, found⟩
    cases names with
    | nil => exact absurd found (indexed.inhabited directory)
    | cons name names =>
      refine ⟨directory ++ [name], ?_, List.dropLast_concat⟩
      rw [Fields.mem_keys_iff]
      exact ⟨directory, (indexed.listed _ _).mpr ⟨name, rfl, _, found, List.mem_cons_self⟩⟩
  · rintro ⟨file, member, rfl⟩
    obtain ⟨directory, found⟩ := Fields.mem_keys_iff.mp member
    obtain ⟨name, rfl, names, listed, _⟩ := (indexed.listed _ _).mp found
    exact ⟨names, by rw [List.dropLast_concat, listed]⟩

theorem Indexed.directoryCount_eq (indexed : watcher.Indexed) :
    watcher.directoryCount = (watcher.sortedFiles.map List.dropLast).dedup.length := by
  have sorted : watcher.sortedFiles.Perm (Fields.keys watcher.files) := List.mergeSort_perm _ _
  have same : (Fields.keys watcher.directories).Perm ((Fields.keys watcher.files).map List.dropLast).dedup := by
    rw [List.perm_ext_iff_of_nodup indexed.directories (List.nodup_dedup _)]
    intro directory
    rw [List.mem_dedup, indexed.mem_keys_directories_iff]
  calc watcher.directoryCount = (Fields.keys watcher.directories).length := (List.length_map _).symm
    _ = ((Fields.keys watcher.files).map List.dropLast).dedup.length := same.length_eq
    _ = (watcher.sortedFiles.map List.dropLast).dedup.length := ((sorted.map _).dedup.length_eq).symm

theorem snd_deregister (watcher : Watcher) (file : List String) :
    (watcher.deregister file).2 = watcher.isWatching file := by
  unfold deregister isWatching Fields.has
  split
  · rename_i absent
    rw [absent]
    rfl
  · rename_i directory found
    rw [found]
    rfl

end Queries

section Operations

/-- How watching a file can end: there is no such file or it is the top, its place is not to be had,
or it is watched from then on if it was not before. -/
theorem watch_cases (watcher : Watcher) (files : FileSystem) (path : String) :
    (∃ shown, watcher.watch files path = (watcher, .error (.notFound shown)) ∧
      (files.exists? path = false ∨ files.canonical path = .ok [])) ∨
    (∃ fault, files.canonical path = .error fault ∧
      watcher.watch files path = (watcher, .error (.unreadable path fault))) ∨
    ∃ directory name, files.canonical path = .ok (directory ++ [name]) ∧
      watcher.watch files path =
        (if watcher.isWatching (directory ++ [name]) = true then { watcher with running := true }
          else { watcher with running := true }.register directory name, .ok ()) := by
  unfold watch
  cases there : files.exists? path with
  | false => exact .inl ⟨path, rfl, .inl rfl⟩
  | true =>
    rw [if_pos rfl]
    cases canonical : files.canonical path with
    | error fault => exact .inr (.inl ⟨fault, rfl, rfl⟩)
    | ok place =>
      rcases List.eq_nil_or_concat' place with rfl | ⟨directory, name, rfl⟩
      · exact .inl ⟨_, rfl, .inr rfl⟩
      · refine .inr (.inr ⟨directory, name, rfl, ?_⟩)
        simp only [List.getLast?_concat, List.dropLast_concat]
        by_cases watched : watcher.isWatching (directory ++ [name]) = true
        · rw [if_pos watched]
          exact if_pos watched
        · rw [if_neg watched]
          exact if_neg watched

theorem Indexed.watch (indexed : watcher.Indexed) (files : FileSystem) (path : String) :
    (watcher.watch files path).1.Indexed := by
  rcases watch_cases watcher files path with ⟨_, failed, _⟩ | ⟨_, _, failed⟩ | ⟨directory, name, _, done⟩
  · rw [failed]
    exact indexed
  · rw [failed]
    exact indexed
  · rw [done]
    simp only
    split
    · exact indexed.start
    · exact indexed.start.register rfl directory name

theorem Indexed.handlePlace {α : Type} (indexed : watcher.Indexed) (files : FileSystem)
    (removal : Bool) (cache : Cache α) (place : List String) :
    (handlePlace files removal watcher cache place).1.Indexed := by
  unfold Watcher.handlePlace
  split
  · exact indexed
  · split
    · exact (indexed.deregister _).withSubscribers _
    · exact indexed.withSubscribers _

theorem Indexed.handlePlaces {α : Type} (files : FileSystem) (removal : Bool)
    {places : List (List String)} {watcher : Watcher} (indexed : watcher.Indexed) (cache : Cache α) :
    (handlePlaces files removal watcher cache places).1.Indexed := by
  induction places generalizing watcher cache with
  | nil => exact indexed
  | cons place rest ih => exact ih (indexed.handlePlace files removal cache place) _

theorem Indexed.handle {α : Type} (indexed : watcher.Indexed) (files : FileSystem)
    (cache : Cache α) (change : Change) : (handle files watcher cache change).1.Indexed := by
  unfold Watcher.handle
  split
  · exact indexed
  · exact indexed.handlePlaces files true cache
  · exact indexed.handlePlaces files false cache
  · exact indexed.handlePlaces files false cache

end Operations

section Runs

variable {α : Type}

/-- What can be done with a watcher and a cache. Each step meets the files as they are at that
moment. -/
inductive Step (α : Type) where
  | watch (files : FileSystem) (path : String)
  | stopWatching (files : FileSystem) (path : String)
  | stopAll
  | notice (files : FileSystem) (change : Change)
  | subscribe
  | leave (index : Nat)
  | collect (index : Nat)
  | put (files : FileSystem) (path : String) (value : α)
  | putIfCurrent (files : FileSystem) (path : String) (epoch : Nat) (value : α)
  | evict (files : FileSystem) (path : String)
  | clear

def act (state : Watcher × Cache α) : Step α → Watcher × Cache α
  | .watch files path => ((state.1.watch files path).1, state.2)
  | .stopWatching files path => ((state.1.deregister (files.key path)).1, state.2)
  | .stopAll => (state.1.stop, state.2)
  | .notice files change => state.1.handle files state.2 change
  | .subscribe => (state.1.subscribe, state.2)
  | .leave index => (state.1.leave index, state.2)
  | .collect index => ((state.1.collect index).1, state.2)
  | .put files path value => (state.1, state.2.put (files.key path) value)
  | .putIfCurrent files path epoch value => (state.1, (state.2.putIfCurrent (files.key path) epoch value).1)
  | .evict files path => (state.1, state.2.evict (files.key path))
  | .clear => (state.1, state.2.clear)

def run (state : Watcher × Cache α) (steps : List (Step α)) : Watcher × Cache α :=
  steps.foldl act state

theorem indexed_act {state : Watcher × Cache α} (indexed : state.1.Indexed) (step : Step α) :
    (act state step).1.Indexed := by
  cases step with
  | watch files path => exact indexed.watch files path
  | stopWatching files path => exact indexed.deregister (files.key path)
  | stopAll => exact indexed.stop
  | notice files change => exact indexed.handle files state.2 change
  | subscribe => exact indexed.withSubscribers _
  | leave index => exact indexed.withSubscribers _
  | collect index => exact indexed.withSubscribers _
  | put files path value => exact indexed
  | putIfCurrent files path epoch value => exact indexed
  | evict files path => exact indexed
  | clear => exact indexed

theorem indexed_run {state : Watcher × Cache α} (indexed : state.1.Indexed) (steps : List (Step α)) :
    (run state steps).1.Indexed := by
  induction steps generalizing state with
  | nil => exact indexed
  | cons step rest ih => exact ih (indexed_act indexed step)

end Runs

end Watcher

namespace Session

inductive Step where
  | files (disk : Disk)
  | watch (path : String)
  | stopWatching (path : String)
  | stopAll
  | notice (change : Change)
  | subscribe
  | leave (index : Nat)
  | collect (index : Nat)
  | put (path : String) (template : Template)
  | putIfCurrent (path : String) (epoch : Nat) (template : Template)
  | evict (path : String)
  | clear

def act (session : Session) : Step → Session
  | .files disk => { session with disk }
  | .watch path => (session.watch path).1
  | .stopWatching path => (session.stopWatching path).1
  | .stopAll => session.stopAll
  | .notice change => session.notice change
  | .subscribe => session.subscribe
  | .leave index => { session with watcher := session.watcher.leave index }
  | .collect index => (session.collect index).1
  | .put path template => { session with cache := session.cache.put (session.disk.key path) template }
  | .putIfCurrent path epoch template =>
    { session with cache := (session.cache.putIfCurrent (session.disk.key path) epoch template).1 }
  | .evict path => { session with cache := session.cache.evict (session.disk.key path) }
  | .clear => { session with cache := session.cache.clear }

def run (session : Session) (steps : List Step) : Session :=
  steps.foldl act session

/-- What a step of a session does to its watcher and its cache. -/
def Step.met (files : FileSystem) : Step → List (Watcher.Step Template)
  | .files _ => []
  | .watch path => [.watch files path]
  | .stopWatching path => [.stopWatching files path]
  | .stopAll => [.stopAll]
  | .notice change => [.notice files change]
  | .subscribe => [.subscribe]
  | .leave index => [.leave index]
  | .collect index => [.collect index]
  | .put path template => [.put files path template]
  | .putIfCurrent path epoch template => [.putIfCurrent files path epoch template]
  | .evict path => [.evict files path]
  | .clear => [.clear]

theorem watched_act (session : Session) (step : Step) :
    ((session.act step).watcher, (session.act step).cache) =
      Watcher.run (session.watcher, session.cache) (step.met session.disk.system) := by
  cases step <;> rfl

theorem indexed_run {session : Session} (indexed : session.watcher.Indexed) (steps : List Step) :
    (session.run steps).watcher.Indexed := by
  induction steps generalizing session with
  | nil => exact indexed
  | cons step rest ih =>
    have kept : (session.watcher, session.cache).1.Indexed := indexed
    have acted := Watcher.indexed_run kept (step.met session.disk.system)
    rw [← watched_act] at acted
    exact ih acted

/-- Watching a watched file again changes nothing, since whoever watches a file is running. -/
theorem watch_of_isWatching {session : Session} (indexed : session.watcher.Indexed) {path : String}
    {file : List String} (located : session.disk.locate path = .ok file)
    (watched : session.watcher.isWatching file = true) : session.watch path = (session, .ok ()) := by
  have there : session.disk.system.exists? path = true := Disk.exists?_eq_true_iff.mpr ⟨file, located⟩
  have canonical : session.disk.system.canonical path = .ok file := Disk.canonical_of_locate located
  rcases Watcher.watch_cases session.watcher session.disk.system path with
    ⟨_, _, missing | top⟩ | ⟨_, failed, _⟩ | ⟨directory, name, found, done⟩
  · rw [there] at missing
    cases missing
  · rw [canonical] at top
    cases top
    rw [indexed.isWatching_nil] at watched
    cases watched
  · rw [canonical] at failed
    cases failed
  · rw [canonical] at found
    cases found
    have running := indexed.running _ watched
    have same : { session.watcher with running := true } = session.watcher := by
      rw [← running]
    rw [Session.watch, done, if_pos watched, same]

theorem watch_of_missing {session : Session} {path : String} {fault : FileFault}
    (missing : session.disk.locate path = .error fault) :
    session.watch path = (session, .error (.notFound path)) := by
  have absent : session.disk.system.exists? path = false := by
    change session.disk.exists? path = false
    rw [Disk.exists?, missing]
  rw [Session.watch, Watcher.watch, absent]
  rfl

theorem fst_watch_of_error {session : Session} {path : String} {e : Error}
    (failed : (session.watch path).2 = .error e) : (session.watch path).1 = session := by
  rcases Watcher.watch_cases session.watcher session.disk.system path with
    ⟨_, unchanged, _⟩ | ⟨_, _, unchanged⟩ | ⟨directory, name, _, done⟩
  · rw [Session.watch, unchanged]
  · rw [Session.watch, unchanged]
  · rw [Session.watch, done] at failed
    cases failed

theorem value?_files_stopWatching {session : Session} (indexed : session.watcher.Indexed) (path : String)
    (file : List String) :
    Fields.value? (session.stopWatching path).1.watcher.files file =
      if file = session.disk.key path then none else Fields.value? session.watcher.files file :=
  indexed.value?_files_deregister _ file

/-- After any steps, a file is listed with a directory exactly if this is its parent and the index has
its name there. So directories are counted by the files in them, a place is found exactly if it is
watched, watching again changes nothing, stopping drops one file, and failing to watch drops none. -/
theorem index_of_run (disk : Disk) (steps : List Step) :
    let session := (start disk).run steps
    let watcher := session.watcher
    (∀ file directory, Fields.value? watcher.files file = some directory ↔
      ∃ name names, file = directory ++ [name] ∧
        Fields.value? watcher.directories directory = some names ∧ name ∈ names) ∧
    (∀ directory names, Fields.value? watcher.directories directory = some names → names ≠ []) ∧
    watcher.directoryCount = (watcher.sortedFiles.map List.dropLast).dedup.length ∧
    (∀ place, watcher.lookup? place = if watcher.isWatching place = true then some place else none) ∧
    (∀ path file, session.disk.locate path = .ok file → watcher.isWatching file = true →
      session.watch path = (session, .ok ())) ∧
    (∀ path, (session.stopWatching path).2 = session.isWatching path ∧
      ∀ file, Fields.value? (session.stopWatching path).1.watcher.files file =
        if file = session.disk.key path then none else Fields.value? watcher.files file) ∧
    (∀ path fault, session.disk.locate path = .error fault →
      (session.watch path).2 = .error (.notFound path)) ∧
    (∀ path shown, (session.watch path).2 = .error (.notFound shown) →
      (session.watch path).1 = session) := by
  intro session watcher
  have indexed : watcher.Indexed := indexed_run Watcher.indexed_idle steps
  refine ⟨?_, ?_, indexed.directoryCount_eq, indexed.lookup?_eq, ?_, ?_, ?_, ?_⟩
  · intro file directory
    rw [indexed.listed]
    constructor
    · rintro ⟨name, parts, names, found, member⟩
      exact ⟨name, names, parts, found, member⟩
    · rintro ⟨name, names, parts, found, member⟩
      exact ⟨name, parts, names, found, member⟩
  · rintro directory names found rfl
    exact indexed.inhabited directory found
  · intro path file
    exact watch_of_isWatching indexed
  · intro path
    exact ⟨Watcher.snd_deregister _ _, value?_files_stopWatching indexed path⟩
  · intro path fault missing
    rw [watch_of_missing missing]
  · intro path shown
    exact fst_watch_of_error

/-- Two files of one directory, one of them removed: the directory stays for the other one. -/
theorem index_of_run_siblings :
    let disk := ((Disk.emptyAt ["w"]).place "a" (.file [])).place "b" (.file [])
    let session := (start disk).run [.watch "a", .watch "./b", .notice ⟨.remove, [["w", "a"], ["w", "c"]]⟩]
    session.watcher.files = [(["w", "b"], ["w"])] ∧ session.watcher.directories = [(["w"], ["b"])] ∧
      session.disk.locate "b" = .ok ["w", "b"] ∧ session.watch "b" = (session, .ok ()) ∧
      session.watcher.lookup? ["w", "a"] = none ∧ session.watcher.directoryCount = 1 := by
  intro disk session
  have files : session.watcher.files = [(["w", "b"], ["w"])] := by decide +kernel
  have directories : session.watcher.directories = [(["w"], ["b"])] := by decide +kernel
  have located : session.disk.locate "b" = .ok ["w", "b"] := by decide +kernel
  obtain ⟨_, _, count, found, again, _⟩ := index_of_run disk
    [.watch "a", .watch "./b", .notice ⟨.remove, [["w", "a"], ["w", "c"]]⟩]
  refine ⟨files, directories, located, again "b" ["w", "b"] located ?_, ?_, ?_⟩
  · decide +kernel
  · rw [found]
    decide +kernel
  · rw [count]
    decide +kernel

end Session

end UiMarkup
