import UiMarkup.Proofs.Cache.Eviction
import UiMarkup.Proofs.Files.Disk
import UiMarkup.Session

namespace UiMarkup

/-- The place that a path means if no part of it leads up: its names, behind those of the working
directory unless it is absolute. -/
def Path.location (here : List String) (path : String) : List String :=
  (if Path.isAbsolute path then [] else here) ++ Path.names path

namespace Disk

theorem isEntryName_of_mem_location {here : List String} {path : String}
    (canonical : ∀ name ∈ here, IsEntryName name) (level : ".." ∉ Path.segments path) :
    ∀ name ∈ Path.location here path, IsEntryName name := by
  intro name member
  rcases List.mem_append.mp member with above | inside
  · split at above
    · cases above
    · exact canonical name above
  · exact Path.isEntryName_of_mem_names level inside

theorem names_join_here {here : List String} (canonical : ∀ name ∈ here, IsEntryName name)
    (path : String) : Path.names (Path.join (Path.ofNames here) path) = Path.location here path := by
  unfold Path.location
  cases absolute : Path.isAbsolute path with
  | true => simp [Path.join, absolute]
  | false =>
    rw [Path.names_join_of_relative absolute (Path.ofNames_ne_empty here),
      Path.names_ofNames canonical]
    rfl

theorem key_eq_location (disk : Disk) (canonical : ∀ name ∈ disk.here, IsEntryName name) {path : String}
    (level : ".." ∉ Path.segments path) : disk.key path = Path.location disk.here path := by
  have written := names_join_here canonical path
  unfold key FileSystem.key FileSystem.knownAs
  cases found : disk.system.canonical path with
  | error fault => exact written
  | ok place =>
    have reached : place = Path.location disk.here path :=
      eq_of_foldlM_follow level (walk_of_canonical found)
    simp only
    rw [reached]
    exact Path.names_ofNames (isEntryName_of_mem_location canonical level)

inductive Edit where
  | create (path : String) (bytes : List UInt8)
  | makeDirectory (path : String)
  | remove (path : String)
  | rename (source target : String)

def edit (disk : Disk) : Edit → Disk
  | .create path bytes => disk.place path (.file bytes)
  | .makeDirectory path => disk.makeDirectory path
  | .remove path => disk.remove path
  | .rename source target => disk.rename source target

theorem here_prepare (disk : Disk) (path : String) : (disk.prepare path).1.here = disk.here := by
  unfold prepare
  -- no part of the path changes the working directory, whatever is made for it
  refine List.foldlRecOn (motive := fun state : Disk × List String => state.1.here = disk.here) _ _
    rfl ?_
  rintro ⟨current, place⟩ same segment -
  simp only
  split_ifs
  all_goals split <;> exact same

theorem here_place (disk : Disk) (path : String) (entry : FileTree) :
    (disk.place path entry).here = disk.here :=
  here_prepare disk path

theorem here_makeDirectory (disk : Disk) (path : String) : (disk.makeDirectory path).here = disk.here := by
  have prepared := here_prepare disk path
  unfold makeDirectory
  simp only
  split <;> exact prepared

theorem here_remove (disk : Disk) (path : String) : (disk.remove path).here = disk.here := by
  unfold remove
  split <;> rfl

theorem here_edit (disk : Disk) (edit : Edit) : (disk.edit edit).here = disk.here := by
  cases edit with
  | create path bytes => exact here_place disk path (.file bytes)
  | makeDirectory path => exact here_makeDirectory disk path
  | remove path => exact here_remove disk path
  | rename source target =>
    simp only [Disk.edit, rename]
    split
    · rw [here_place, here_remove]
    · rfl

end Disk

namespace Session

inductive Request where
  | cache (operation : Cache.Operation Template)
  | isWatching
  | stopWatching

inductive Event where
  | edit (edit : Disk.Edit)
  | ask (path : String) (request : Request)

def Event.Level : Event → Prop
  | .edit _ => True
  | .ask path _ => ".." ∉ Path.segments path

instance : DecidablePred Event.Level
  | .edit _ => isTrue trivial
  | .ask path _ => inferInstanceAs (Decidable (".." ∉ Path.segments path))

def ask (session : Session) (path : String) : Request → Session × Cache.Answer Template
  | .cache operation =>
    let (cache, answer) := session.cache.operate (session.disk.key path) operation
    ({ session with cache }, answer)
  | .isWatching => (session, .flag (session.isWatching path))
  | .stopWatching =>
    let (later, stopped) := session.stopWatching path
    (later, .flag stopped)

def respond (session : Session) : List Event → Session × List (Cache.Answer Template)
  | [] => (session, [])
  | .edit edit :: rest => { session with disk := session.disk.edit edit }.respond rest
  | .ask path request :: rest =>
    let (next, answer) := session.ask path request
    let (last, answers) := next.respond rest
    (last, answer :: answers)

def located (here : List String) : List Event → List (List String × Request)
  | [] => []
  | .edit _ :: rest => located here rest
  | .ask path request :: rest => (Path.location here path, request) :: located here rest

def kept (session : Session) : Cache Template × Watcher :=
  (session.cache, session.watcher)

def serve (kept : Cache Template × Watcher) (place : List String) :
    Request → (Cache Template × Watcher) × Cache.Answer Template
  | .cache operation =>
    let (cache, answer) := kept.1.operate place operation
    ((cache, kept.2), answer)
  | .isWatching => (kept, .flag (kept.2.isWatching place))
  | .stopWatching =>
    let (watcher, stopped) := kept.2.deregister place
    ((kept.1, watcher), .flag stopped)

def serveAll (kept : Cache Template × Watcher) :
    List (List String × Request) → (Cache Template × Watcher) × List (Cache.Answer Template)
  | [] => (kept, [])
  | (place, request) :: rest =>
    let (next, answer) := serve kept place request
    let (last, answers) := serveAll next rest
    (last, answer :: answers)

theorem disk_ask (session : Session) (path : String) (request : Request) :
    (session.ask path request).1.disk = session.disk := by
  cases request <;> rfl

theorem kept_ask (session : Session) (path : String) (request : Request) :
    ((session.ask path request).1.kept, (session.ask path request).2) =
      serve session.kept (session.disk.key path) request := by
  cases request <;> rfl

/-- A history is answered from its located requests alone. -/
theorem kept_respond {session : Session} (canonical : ∀ name ∈ session.disk.here, IsEntryName name)
    {history : List Event} (level : ∀ event ∈ history, event.Level) :
    ((session.respond history).1.kept, (session.respond history).2) =
      serveAll session.kept (located session.disk.here history) := by
  -- neither an edit nor a request moves the working directory, so the places stay the same on the way
  induction history generalizing session with
  | nil => rfl
  | cons event rest ih =>
    have later (event : Event) (member : event ∈ rest) := level event (List.mem_cons_of_mem _ member)
    cases event with
    | edit edit =>
      have here := Disk.here_edit session.disk edit
      have inside := @ih { session with disk := session.disk.edit edit } (by rwa [here]) later
      rw [here] at inside
      exact inside
    | ask path request =>
      have key := Disk.key_eq_location session.disk canonical (level _ List.mem_cons_self)
      have asked := kept_ask session path request
      have disk := disk_ask session path request
      have inside := @ih (session.ask path request).1 (by rwa [disk]) later
      rw [disk] at inside
      rw [key] at asked
      rw [located, serveAll, ← asked]
      simp only
      rw [← inside]
      rfl

/-- The key of a path that leads nowhere up has the names of the working directory and then those of
the path, or only these if the path is absolute, be there such a file or not; and that is where a
file is watched that is there. So two histories of requests that mean the same places have the same
answers, and leave the same values cached and the same files watched, however the paths are written
and whatever becomes of the files on the way. -/
theorem answers_by_location (session : Session)
    (canonical : ∀ name ∈ session.disk.here, IsEntryName name) :
    (∀ tree path, ".." ∉ Path.segments path →
      (Disk.mk tree session.disk.here).key path = Path.location session.disk.here path ∧
      ∀ place, (Disk.mk tree session.disk.here).locate path = .ok place →
        place = Path.location session.disk.here path) ∧
    ∀ left right : List Event, (∀ event ∈ left ++ right, event.Level) →
      located session.disk.here left = located session.disk.here right →
      (session.respond left).2 = (session.respond right).2 ∧
      (session.respond left).1.cache = (session.respond right).1.cache ∧
      (session.respond left).1.watcher = (session.respond right).1.watcher := by
  constructor
  · intro tree path level
    refine ⟨Disk.key_eq_location ⟨tree, session.disk.here⟩ canonical level, ?_⟩
    intro place located
    obtain ⟨⟨⟩, _, walked⟩ := ok_of_bind located
    exact Disk.eq_of_foldlM_follow level walked
  · intro left right level same
    rw [List.forall_mem_append] at level
    have sameServed := kept_respond canonical level.1
    rw [same, ← kept_respond canonical level.2] at sameServed
    obtain ⟨sameKept, sameAnswers⟩ := Prod.mk.inj sameServed
    obtain ⟨sameCache, sameWatcher⟩ := Prod.mk.inj sameKept
    exact ⟨sameAnswers, sameCache, sameWatcher⟩

/-- A template that is stored under one spelling is found under another one when its file is gone, and
the file is still watched. -/
theorem answers_by_location_removed :
    let session := ((start ((Disk.emptyAt ["w"]).place "menu" (.file []))).watch "menu").1
    let template : Template := ⟨[], [], .empty⟩
    let left : List Event := [.ask "menu" (.cache (.put template)), .ask "menu" (.cache .get),
      .ask "menu" .stopWatching]
    let right : List Event := [.ask "./menu" (.cache (.put template)), .edit (.remove "menu"),
      .ask "/w//menu/." (.cache .get), .ask "menu/" .stopWatching]
    (∀ name ∈ session.disk.here, IsEntryName name) ∧
      located session.disk.here left = located session.disk.here right ∧
      session.disk.locate "menu" = .ok ["w", "menu"] ∧
      (session.respond right).1.disk.locate "menu" = .error .missing ∧
      (session.respond right).2 = [.done, .value (some template), .flag true] := by
  intro session template left right
  have canonical : ∀ name ∈ session.disk.here, IsEntryName name := by decide +kernel
  have level : ∀ event ∈ left ++ right, event.Level := by decide +kernel
  have place : ∀ path ∈ ["menu", "./menu", "/w//menu/.", "menu/"],
      Path.location session.disk.here path = ["w", "menu"] := by
    decide +kernel
  have same : located session.disk.here left = located session.disk.here right := by
    simp [left, right, located, place]
  refine ⟨canonical, same, by decide +kernel, by decide +kernel, ?_⟩
  rw [← ((answers_by_location session canonical).2 left right level same).1]
  have key : session.disk.key "menu" = ["w", "menu"] := by decide +kernel
  have stopped : (session.watcher.deregister ["w", "menu"]).2 = true := by decide +kernel
  simp [left, respond, ask, Cache.operate, key, Cache.get?_put_self, Session.stopWatching, stopped]

end Session

end UiMarkup
