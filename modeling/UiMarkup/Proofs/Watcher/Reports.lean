import UiMarkup.Proofs.Files.System
import UiMarkup.Proofs.Watcher.Index

namespace UiMarkup

def Invalidation.place : Invalidation → List String
  | .modified place => place
  | .removed place => place

/-- What is reported of places that a change names, given the files that stay and the files that are
watched. A file that does not stay is not watched any longer when the next place is looked at. -/
def Watcher.reports (stays watched : List String → Bool) : List (List String) → List Invalidation
  | [] => []
  | place :: rest =>
    if watched place then
      if stays place then .modified place :: reports stays watched rest
      else .removed place :: reports stays (fun other => watched other && other != place) rest
    else reports stays watched rest

/-- What is reported of a change. No file stays where it is said to be removed. -/
def Change.reports (exists? watched : List String → Bool) (change : Change) : List Invalidation :=
  match change.kind with
  | .other => []
  | .remove => Watcher.reports (fun _ => false) watched change.places
  | .create | .modify => Watcher.reports exists? watched change.places

/-- The subscribers after reports: those that listen have them all, in order, and the others are
forgotten if there was anything to tell. -/
def Subscriber.told (reports : List Invalidation) (subscribers : List Subscriber) : List Subscriber :=
  if reports = [] then subscribers
  else (subscribers.filter Subscriber.listening).map fun subscriber =>
    { subscriber with inbox := subscriber.inbox ++ reports }

namespace Subscriber

@[simp] theorem told_nil (subscribers : List Subscriber) : told [] subscribers = subscribers :=
  if_pos rfl

theorem filter_told {reports : List Invalidation} (some : reports ≠ []) (subscribers : List Subscriber) :
    (told reports subscribers).filter listening = told reports subscribers := by
  rw [told, if_neg some, List.filter_eq_self]
  intro subscriber member
  obtain ⟨before, kept, rfl⟩ := List.mem_map.mp member
  exact (List.mem_filter.mp kept).2

theorem told_append (first second : List Invalidation) (subscribers : List Subscriber) :
    told second (told first subscribers) = told (first ++ second) subscribers := by
  by_cases none : first = []
  · rw [none, List.nil_append, told_nil]
  · by_cases nothing : second = []
    · rw [nothing, List.append_nil, told_nil]
    · rw [told, if_neg nothing, filter_told none, told, told, if_neg none, if_neg (by simp [none]),
        List.map_map]
      simp [Function.comp_def, List.append_assoc]

end Subscriber

namespace Watcher

variable {α : Type}

/-- What becomes of a watcher and a cache while reports are made on files with these keys. -/
structure Reported (keyAt : List String → List String) (reports : List Invalidation)
    (before after : Watcher × Cache α) : Prop where
  entries : ∀ key, after.2.get? key =
    if key ∈ reports.map (keyAt ·.place) then none else before.2.get? key
  epochs : ∀ key, after.2.epoch key =
    before.2.epoch key + (reports.map (keyAt ·.place)).count key
  files : ∀ key, Fields.value? after.1.files key =
    if .removed key ∈ reports then none else Fields.value? before.1.files key
  subscribers : after.1.subscribers = Subscriber.told reports before.1.subscribers
  running : after.1.running = before.1.running

variable {keyAt : List String → List String}

theorem Reported.refl (state : Watcher × Cache α) : Reported keyAt [] state state :=
  ⟨fun _ => rfl, fun _ => rfl, fun _ => rfl, rfl, rfl⟩

theorem Reported.trans {first second : List Invalidation} {start middle final : Watcher × Cache α}
    (h : Reported keyAt first start middle) (k : Reported keyAt second middle final) :
    Reported keyAt (first ++ second) start final := by
  refine ⟨?_, ?_, ?_, ?_, k.running.trans h.running⟩
  · intro key
    rw [k.entries, h.entries]
    simp only [List.map_append, List.mem_append]
    by_cases later : key ∈ second.map (keyAt ·.place)
    · simp only [later, if_true, or_true]
    · simp only [later, if_false, or_false]
  · intro key
    rw [k.epochs, h.epochs, List.map_append, List.count_append, Nat.add_assoc]
  · intro key
    rw [k.files, h.files]
    simp only [List.mem_append]
    by_cases later : Invalidation.removed key ∈ second
    · simp only [later, if_true, or_true]
    · simp only [later, if_false, or_false]
  · rw [k.subscribers, h.subscribers, Subscriber.told_append]

theorem Reported.lookup?_eq {reports : List Invalidation} {before after : Watcher × Cache α}
    (reported : Reported keyAt reports before after) (indexed : before.1.Indexed) (later : after.1.Indexed)
    (place : List String) :
    after.1.lookup? place = if .removed place ∈ reports then none else before.1.lookup? place := by
  have files := reported.files place
  rw [later.lookup?_eq, indexed.lookup?_eq]
  by_cases gone : Invalidation.removed place ∈ reports
  · have unwatched : after.1.isWatching place = false := by
      rw [isWatching, Fields.has, files, if_pos gone]
      rfl
    rw [unwatched, if_pos gone]
    rfl
  · have same : after.1.isWatching place = before.1.isWatching place := by
      rw [isWatching, Fields.has, files, if_neg gone]
      rfl
    rw [same, if_neg gone]

section OnePlace

variable {watcher : Watcher} {cache : Cache α}

theorem entry_evict (distinct : cache.Distinct) (evicted key : List String) :
    (cache.evict evicted).get? key = if key ∈ [evicted] then none else cache.get? key := by
  by_cases same : key = evicted
  · rw [same, cache.get?_evict_self distinct, if_pos (List.mem_singleton.mpr rfl)]
  · rw [cache.get?_evict_of_ne same, if_neg (by simpa using same)]

theorem epoch_evict (cache : Cache α) (evicted key : List String) :
    (cache.evict evicted).epoch key = cache.epoch key + [evicted].count key := by
  by_cases same : key = evicted
  · rw [same, cache.epoch_evict_self, List.count_singleton_self]
  · rw [cache.epoch_evict_of_ne same, List.count_eq_zero_of_not_mem (by simpa using same)]
    rfl

theorem reported_modified (distinct : cache.Distinct) (place : List String) :
    Reported keyAt [.modified place] (watcher, cache)
      (watcher.notify (.modified place), cache.evict (keyAt place)) := by
  refine ⟨entry_evict distinct (keyAt place), epoch_evict cache (keyAt place), ?_, ?_, rfl⟩
  · intro key
    rw [if_neg (by simp)]
    rfl
  · rfl

theorem rest_deregister (watcher : Watcher) (file : List String) :
    (watcher.deregister file).1.running = watcher.running ∧
      (watcher.deregister file).1.subscribers = watcher.subscribers := by
  unfold deregister
  split <;> exact ⟨rfl, rfl⟩

theorem reported_removed (indexed : watcher.Indexed) (distinct : cache.Distinct) (place : List String) :
    Reported keyAt [.removed place] (watcher, cache)
      ((watcher.deregister place).1.notify (.removed place), cache.evict (keyAt place)) := by
  obtain ⟨running, subscribers⟩ := rest_deregister watcher place
  refine ⟨entry_evict distinct (keyAt place), epoch_evict cache (keyAt place), ?_, ?_, running⟩
  · intro key
    refine (indexed.value?_files_deregister place key).trans ?_
    simp only [List.mem_singleton, Invalidation.removed.injEq]
  · rw [notify, subscribers]
    rfl

theorem Indexed.notify (indexed : watcher.Indexed) (invalidation : Invalidation) :
    (watcher.notify invalidation).Indexed :=
  indexed.withSubscribers _

theorem Indexed.isWatching_deregister (indexed : watcher.Indexed) (file : List String) :
    (watcher.deregister file).1.isWatching = fun other => watcher.isWatching other && other != file := by
  funext other
  rw [isWatching, Fields.has, indexed.value?_files_deregister]
  by_cases same : other = file
  · simp [same]
  · simp [same, isWatching, Fields.has]

theorem Indexed.handlePlace_eq (indexed : watcher.Indexed) (files : FileSystem) (removal : Bool)
    (place : List String) :
    Watcher.handlePlace files removal watcher cache place =
      if watcher.isWatching place = true then
        if removal || !files.hasPlace place then
          ((watcher.deregister place).1.notify (.removed place), cache.evict (files.keyAt place))
        else (watcher.notify (.modified place), cache.evict (files.keyAt place))
      else (watcher, cache) := by
  rw [Watcher.handlePlace, indexed.lookup?_eq]
  by_cases watched : watcher.isWatching place = true
  · simp only [watched, if_true]
  · simp only [watched, Bool.false_eq_true, if_false]

end OnePlace

/-- The places of a change are dealt with as its reports say. -/
theorem reported_handlePlaces (files : FileSystem) (removal : Bool)
    (places : List (List String)) {watcher : Watcher} {cache : Cache α} (indexed : watcher.Indexed)
    (distinct : cache.Distinct) :
    Reported files.keyAt (reports (fun place => !(removal || !files.hasPlace place)) watcher.isWatching places)
      (watcher, cache) (handlePlaces files removal watcher cache places) := by
  induction places generalizing watcher cache with
  | nil => exact .refl _
  | cons place rest ih =>
    rw [handlePlaces, indexed.handlePlace_eq, reports]
    by_cases watched : watcher.isWatching place = true
    · rw [if_pos watched, if_pos watched]
      have evicted := distinct.evict (files.keyAt place)
      by_cases gone : (removal || !files.hasPlace place) = true
      · rw [if_pos gone, if_neg (by simp [gone]), ← indexed.isWatching_deregister]
        exact (reported_removed indexed distinct place).trans
          (ih ((indexed.deregister place).notify _) evicted)
      · rw [if_neg gone, if_pos (by simpa using gone)]
        exact (reported_modified distinct place).trans (ih (indexed.notify _) evicted)
    · rw [if_neg watched, if_neg watched]
      exact ih indexed distinct

theorem reported_handle (files : FileSystem) {watcher : Watcher} {cache : Cache α}
    (indexed : watcher.Indexed) (distinct : cache.Distinct) (change : Change) :
    Reported files.keyAt (change.reports files.hasPlace watcher.isWatching) (watcher, cache)
      (handle files watcher cache change) := by
  have present := reported_handlePlaces files false change.places indexed distinct
  have removed := reported_handlePlaces files true change.places indexed distinct
  simp only [Bool.false_or, Bool.true_or, Bool.not_not, Bool.not_true] at present removed
  unfold Change.reports handle
  cases change.kind with
  | create => exact present
  | modify => exact present
  | remove => exact removed
  | other => exact .refl _

theorem distinct_handlePlace (files : FileSystem) (removal : Bool) (watcher : Watcher)
    {cache : Cache α} (distinct : cache.Distinct) (place : List String) :
    (handlePlace files removal watcher cache place).2.Distinct := by
  unfold handlePlace
  split
  · exact distinct
  · split
    · exact distinct.evict _
    · exact distinct.evict _

theorem distinct_handlePlaces (files : FileSystem) (removal : Bool)
    (places : List (List String)) (watcher : Watcher) {cache : Cache α} (distinct : cache.Distinct) :
    (handlePlaces files removal watcher cache places).2.Distinct := by
  induction places generalizing watcher cache with
  | nil => exact distinct
  | cons place rest ih => exact ih _ (distinct_handlePlace files removal watcher distinct place)

theorem distinct_handle (files : FileSystem) (watcher : Watcher) {cache : Cache α}
    (distinct : cache.Distinct) (change : Change) : (handle files watcher cache change).2.Distinct := by
  unfold handle
  cases change.kind with
  | create => exact distinct_handlePlaces files false change.places watcher distinct
  | modify => exact distinct_handlePlaces files false change.places watcher distinct
  | remove => exact distinct_handlePlaces files true change.places watcher distinct
  | other => exact distinct

theorem distinct_act {state : Watcher × Cache α} (distinct : state.2.Distinct) (step : Step α) :
    (act state step).2.Distinct := by
  cases step with
  | notice files change => exact distinct_handle files state.1 distinct change
  | put files path value => exact distinct.put _ _
  | putIfCurrent files path epoch value =>
    simp only [act, Cache.putIfCurrent]
    split
    · exact distinct.put _ _
    · exact distinct
  | evict files path => exact distinct.evict _
  | clear => exact List.nodup_nil
  | _ => exact distinct

theorem distinct_run {state : Watcher × Cache α} (distinct : state.2.Distinct) (steps : List (Step α)) :
    (run state steps).2.Distinct := by
  induction steps generalizing state with
  | nil => exact distinct
  | cons step rest ih => exact ih (distinct_act distinct step)

section Keys

variable {watcher : Watcher} {state : Watcher × Cache α}

def Step.Proper : Step α → Prop
  | .watch files _ => files.Proper
  | _ => True

def Named (watcher : Watcher) : Prop :=
  ∀ place, watcher.isWatching place = true → ∀ name ∈ place, IsEntryName name

theorem Named.mono {later : Watcher} (named : watcher.Named)
    (fewer : ∀ place, later.isWatching place = true → watcher.isWatching place = true) : later.Named :=
  fun place watched => named place (fewer place watched)

theorem Named.register (named : watcher.Named) {directory : List String} {name : String}
    (proper : ∀ own ∈ directory ++ [name], IsEntryName own) : (watcher.register directory name).Named := by
  intro place watched
  rw [isWatching, Fields.has, Watcher.register, Fields.value?_put] at watched
  by_cases same : place = directory ++ [name]
  · rw [same]
    exact proper
  · rw [if_neg same] at watched
    exact named place watched

theorem Named.watch (named : watcher.Named) {files : FileSystem} (proper : files.Proper) (path : String) :
    (watcher.watch files path).1.Named := by
  have started : Named { watcher with running := true } := named
  rcases watch_cases watcher files path with ⟨_, failed, _⟩ | ⟨_, _, failed⟩ | ⟨directory, name, found, done⟩
  · rw [failed]
    exact named
  · rw [failed]
    exact named
  · rw [done]
    simp only
    split
    · exact started
    · exact started.register (proper path _ found)

theorem Named.deregister (named : watcher.Named) (indexed : watcher.Indexed) (file : List String) :
    (watcher.deregister file).1.Named := by
  apply named.mono
  intro place watched
  rw [indexed.isWatching_deregister] at watched
  exact (Bool.and_eq_true_iff.mp watched).1

theorem Named.handle (named : state.1.Named) (indexed : state.1.Indexed) (distinct : state.2.Distinct)
    (files : FileSystem) (change : Change) : (state.1.handle files state.2 change).1.Named := by
  apply named.mono
  intro place watched
  rw [isWatching, Fields.has, (reported_handle files indexed distinct change).files] at watched
  split at watched
  · cases watched
  · exact watched

theorem named_act (indexed : state.1.Indexed) (distinct : state.2.Distinct) (named : state.1.Named)
    {step : Step α} (proper : step.Proper) : (act state step).1.Named := by
  cases step with
  | watch files path => exact named.watch proper path
  | stopWatching files path => exact named.deregister indexed _
  | stopAll => exact fun place watched => by cases watched
  | notice files change => exact named.handle indexed distinct files change
  | _ => exact named

theorem named_run (indexed : state.1.Indexed) (distinct : state.2.Distinct) (named : state.1.Named)
    {steps : List (Step α)} (proper : ∀ step ∈ steps, step.Proper) : (run state steps).1.Named := by
  induction steps generalizing state with
  | nil => exact named
  | cons step rest ih =>
    rw [List.forall_mem_cons] at proper
    exact ih (indexed_act indexed step) (distinct_act distinct step)
      (named_act indexed distinct named proper.1) proper.2

theorem keyAt_of_isWatching {steps : List (Step α)} (proper : ∀ step ∈ steps, step.Proper)
    {files : FileSystem} (linkless : files.Linkless) {place : List String}
    (watched : (run (idle, .empty) steps).1.isWatching place = true) : files.keyAt place = place := by
  have named : (run (idle, .empty) steps).1.Named :=
    named_run indexed_idle Cache.distinct_empty (fun place watched => by cases watched) proper
  exact linkless.keyAt_eq (named place watched)

/-- On a disk, the key of a watched file is the place under which it is watched, be it still there or
not. -/
theorem key_of_isWatching {steps : List (Step α)} (proper : ∀ step ∈ steps, step.Proper) (disk : Disk)
    {place : List String} (watched : (run (idle, .empty) steps).1.isWatching place = true) :
    disk.key (Path.ofNames place) = place :=
  keyAt_of_isWatching proper disk.linkless_system watched

theorem isWatching_of_mem_reports {stays watched : List String → Bool} {places : List (List String)}
    {report : Invalidation} (member : report ∈ reports stays watched places) :
    watched report.place = true := by
  induction places generalizing watched with
  | nil => cases member
  | cons place rest ih =>
    rw [reports] at member
    split at member
    · rename_i isWatched
      split at member
      · rcases List.mem_cons.mp member with rfl | later
        · exact isWatched
        · exact ih later
      · rcases List.mem_cons.mp member with rfl | later
        · exact isWatched
        · exact (Bool.and_eq_true_iff.mp (ih later)).1
    · exact ih member

theorem isWatching_of_mem_changeReports {exists? watched : List String → Bool} {change : Change}
    {report : Invalidation} (member : report ∈ change.reports exists? watched) :
    watched report.place = true := by
  unfold Change.reports at member
  split at member
  · cases member
  · exact isWatching_of_mem_reports member
  · exact isWatching_of_mem_reports member
  · exact isWatching_of_mem_reports member

end Keys

/-- A change touches exactly the watched files that it names. After any steps, with whatever files
were met on the way, what is evicted, how often, what is no longer watched and what subscribers are
told is what the reports of the change say, and everything else is as it was. A file is evicted
under the key that it has when the change is dealt with. Where no links stand in the way, that is
the place under which it is watched. Epochs are counted without a bound, so they are the numbers of
64 bits that a key has only if it is evicted fewer than `2 ^ 64` times. -/
theorem notice_of_run (steps : List (Step α)) (files : FileSystem) (change : Change) :
    let before := run (idle, .empty) steps
    let after := before.1.handle files before.2 change
    let reports := change.reports files.hasPlace before.1.isWatching
    let keys := reports.map fun report => files.keyAt report.place
    (change.kind = .other → after = before) ∧
    (∀ key, after.2.get? key = if key ∈ keys then none else before.2.get? key) ∧
    (∀ key, after.2.epoch key = before.2.epoch key + keys.count key) ∧
    (∀ file, Fields.value? after.1.files file =
      if .removed file ∈ reports then none else Fields.value? before.1.files file) ∧
    (∀ place, after.1.lookup? place =
      if .removed place ∈ reports then none else before.1.lookup? place) ∧
    after.1.subscribers =
      (if reports = [] then before.1.subscribers
      else (before.1.subscribers.filter Subscriber.listening).map fun subscriber =>
        { subscriber with inbox := subscriber.inbox ++ reports }) ∧
    after.1.running = before.1.running ∧
    ((∀ step ∈ steps, step.Proper) → files.Linkless → keys = reports.map Invalidation.place) := by
  intro before after reports keys
  have indexed : before.1.Indexed := indexed_run indexed_idle steps
  have distinct : before.2.Distinct := distinct_run Cache.distinct_empty steps
  have reported := reported_handle files indexed distinct change
  refine ⟨?_, reported.entries, reported.epochs, reported.files, ?_, reported.subscribers,
    reported.running, ?_⟩
  · intro other
    simp only [after, handle, other]
  · intro place
    exact reported.lookup?_eq indexed (indexed.handle files before.2 change) place
  · intro proper linkless
    apply List.map_congr_left
    intro report member
    exact keyAt_of_isWatching proper linkless (isWatching_of_mem_changeReports member)

/-- Two watched files and a third one. One of the two is gone: it is reported once, and the other
one as often as it is named, to who still listens. Then a link is put in the place of the file that
is left: what is evicted is the file to which it leads, though the link is reported. -/
theorem notice_of_run_repeated :
    let disk := ((Disk.emptyAt ["w"]).place "a" (.file [])).place "b" (.file [])
    let steps : List (Step Nat) := [.subscribe, .subscribe, .leave 1, .watch disk.system "a",
      .watch disk.system "b", .put disk.system "a" 1, .put disk.system "b" 2]
    let change : Change := ⟨.modify, [["w", "a"], ["w", "c"], ["w", "b"], ["w", "a"], ["w", "b"]]⟩
    let before := run (idle, .empty) steps
    let after := before.1.handle (disk.remove "b").system before.2 change
    let linked : FileSystem := ⟨["w"], fun _ => true, fun _ => .ok ["w", "b"]⟩
    let relinked := before.1.handle linked before.2 ⟨.modify, [["w", "a"]]⟩
    (∀ step ∈ steps, step.Proper) ∧ (disk.remove "b").system.Linkless ∧
      before.2.get? ["w", "a"] = some 1 ∧ after.2.get? ["w", "a"] = none ∧
      after.2.epoch ["w", "a"] = 2 ∧ after.2.epoch ["w", "b"] = 1 ∧
      after.1.subscribers =
        [⟨true, [.modified ["w", "a"], .removed ["w", "b"], .modified ["w", "a"]]⟩] ∧
      relinked.2.get? ["w", "a"] = some 1 ∧ relinked.2.get? ["w", "b"] = none ∧
      relinked.1.subscribers = [⟨true, [.modified ["w", "a"]]⟩] := by
  intro disk steps change before after linked relinked
  have canonical : ∀ name ∈ disk.here, IsEntryName name := by decide +kernel
  have proper : ∀ step ∈ steps, step.Proper := by
    have ofDisk : disk.system.Proper := Disk.proper_system canonical
    simp [steps, Step.Proper, ofDisk]
  have linkless : (disk.remove "b").system.Linkless := Disk.linkless_system _
  have watched : change.reports (disk.remove "b").system.hasPlace (run (idle, .empty) steps).1.isWatching =
      [.modified ["w", "a"], .removed ["w", "b"], .modified ["w", "a"]] := by decide +kernel
  have link : (⟨.modify, [["w", "a"]]⟩ : Change).reports linked.hasPlace
      (run (idle, .empty) steps).1.isWatching = [.modified ["w", "a"]] := by decide +kernel
  have led : linked.keyAt ["w", "a"] = ["w", "b"] := by decide +kernel
  have subscribers : (run (idle, .empty) steps).1.subscribers = [⟨true, []⟩, ⟨false, []⟩] := by
    decide +kernel
  have cached : (run (idle, .empty) steps).2.get? ["w", "a"] = some 1 := by decide +kernel
  have fresh (key : List String) : (run (idle, .empty) steps).2.epoch key = 0 := rfl
  obtain ⟨_, entries, epochs, _, _, told, _, keys⟩ := notice_of_run steps (disk.remove "b").system change
  obtain ⟨_, linkedEntries, _, _, _, linkedTold, _⟩ := notice_of_run steps linked ⟨.modify, [["w", "a"]]⟩
  rw [keys proper linkless, watched] at entries epochs
  rw [watched, subscribers] at told
  rw [link] at linkedEntries
  rw [link, subscribers] at linkedTold
  simp only [List.map_cons, List.map_nil, Invalidation.place, led] at linkedEntries
  refine ⟨proper, linkless, cached, ?_, ?_, ?_, told, ?_, ?_, linkedTold⟩
  · exact (entries ["w", "a"]).trans (if_pos (by decide))
  · rw [epochs, fresh]
    rfl
  · rw [epochs, fresh]
    rfl
  · exact (linkedEntries ["w", "a"]).trans ((if_neg (by decide)).trans cached)
  · exact (linkedEntries ["w", "b"]).trans (if_pos (by decide))

end Watcher

end UiMarkup
