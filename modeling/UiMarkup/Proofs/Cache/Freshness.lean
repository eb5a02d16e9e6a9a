import UiMarkup.Proofs.Cache.Operations
import UiMarkup.Session

namespace UiMarkup.Loading

inductive Stage where
  | missed
  | counted (epoch : Nat)
  | read (epoch : Nat) (source : String)
  | compiled (epoch : Nat) (source : String) (template : Template)

/-- A load that is under way. Its key is taken once and stays the same to the end; a load of a path
with `..` in it may get another key where directories are deleted meanwhile, and is not covered. -/
structure Call where
  key : List String
  stage : Stage

/-- What reading each file gives now, the cache, the loads that are under way, and the keys of the
evictions that are still to come, one for each write. -/
structure State where
  files : List String → Except Error String
  cache : Cache Template
  calls : List Call
  pending : List (List String)

inductive Action where
  | load (key : List String)
  | advance (index : Nat)
  | write (key : List String) (content : Except Error String)
  | evict (key : List String)

def Stage.held? : Stage → Option (Nat × String)
  | .missed => none
  | .counted _ => none
  | .read epoch source => some (epoch, source)
  | .compiled epoch source _ => some (epoch, source)

section Machine

variable (surroundings : List String → Surroundings)

/-- The template that a source text is compiled to under a key. The custom tags and the pictures that
it is compiled among are those of the key's surroundings, the same in all steps: only source texts
change while files are loaded. -/
def compile (key : List String) (source : String) : Except Error Template :=
  (Template.compile (surroundings key) [] source).result

def Call.advance (files : List String → Except Error String) (cache : Cache Template) (call : Call) :
    Cache Template × Option Call :=
  match call.stage with
  | .missed => (cache, some ⟨call.key, .counted (cache.epoch call.key)⟩)
  | .counted epoch =>
    match files call.key with
    | .ok source => (cache, some ⟨call.key, .read epoch source⟩)
    | .error _ => (cache, none)
  | .read epoch source =>
    match compile surroundings call.key source with
    | .ok template => (cache, some ⟨call.key, .compiled epoch source template⟩)
    | .error _ => (cache, none)
  | .compiled epoch _ template => ((cache.putIfCurrent call.key epoch template).1, none)

namespace State

def start (files : List String → Except Error String) : State :=
  ⟨files, .empty, [], []⟩

/-- One step of the whole. A load begins only if nothing is cached; an eviction may also arrive that
no write has caused. -/
def act (state : State) : Action → State
  | .load key =>
    if state.cache.contains key then state
    else { state with calls := state.calls ++ [⟨key, .missed⟩] }
  | .advance index =>
    match state.calls[index]? with
    | none => state
    | some call =>
      let (cache, later) := call.advance surroundings state.files state.cache
      { state with
        cache
        calls := state.calls.take index ++ later.toList ++ state.calls.drop (index + 1) }
  | .write key content =>
    { state with
      files := fun other => if other = key then content else state.files other
      pending := state.pending ++ [key] }
  | .evict key =>
    { state with cache := state.cache.evict key, pending := state.pending.erase key }

def run (state : State) (actions : List Action) : State :=
  actions.foldl (act surroundings) state

def Fresh (state : State) (key : List String) (template : Template) : Prop :=
  ∃ source, state.files key = .ok source ∧ compile surroundings key source = .ok template

/-- A source text that was read under an epoch is what the file holds now, or an eviction is still to
come, or one came since. -/
structure Held (state : State) (key : List String) (epoch : Nat) (source : String) : Prop where
  past : epoch ≤ state.cache.epoch key
  current : state.files key = .ok source ∨ key ∈ state.pending ∨ epoch ≠ state.cache.epoch key

end State

def Call.Sound (state : State) (call : Call) : Prop :=
  match call.stage with
  | .missed => True
  | .counted epoch => epoch ≤ state.cache.epoch call.key
  | .read epoch source => state.Held call.key epoch source
  | .compiled epoch source template =>
    state.Held call.key epoch source ∧ compile surroundings call.key source = .ok template

namespace State

structure Invariant (state : State) : Prop where
  distinct : state.cache.Distinct
  cached : ∀ key template, state.cache.get? key = some template →
    state.Fresh surroundings key template ∨ key ∈ state.pending
  calls : ∀ call ∈ state.calls, call.Sound surroundings state

end State

end Machine

section Steps

variable {surroundings : List String → Surroundings} {state : State}

theorem Call.Sound.mono {later : State} {call : Call} (sound : call.Sound surroundings state)
    (epochs : ∀ key, state.cache.epoch key ≤ later.cache.epoch key)
    (held : ∀ key epoch source, state.Held key epoch source → later.Held key epoch source) :
    call.Sound surroundings later := by
  obtain ⟨key, stage⟩ := call
  cases stage with
  | missed => exact trivial
  | counted epoch => exact Nat.le_trans sound (epochs key)
  | read epoch source => exact held key epoch source sound
  | compiled epoch source template => exact ⟨held key epoch source sound.1, sound.2⟩

/-- The cache after a step of a load: as before, or with a template put into it whose source was held
under the epoch of now. -/
theorem Call.advance_cache {call : Call} (sound : call.Sound surroundings state) :
    (call.advance surroundings state.files state.cache).1 = state.cache ∨
      ∃ source template, state.Held call.key (state.cache.epoch call.key) source ∧
        compile surroundings call.key source = .ok template ∧
        (call.advance surroundings state.files state.cache).1 = state.cache.put call.key template := by
  obtain ⟨key, stage⟩ := call
  cases stage with
  | missed => exact .inl rfl
  | counted epoch =>
    left
    simp only [Call.advance]
    split <;> rfl
  | read epoch source =>
    left
    simp only [Call.advance]
    split <;> rfl
  | compiled epoch source template =>
    obtain ⟨held, made⟩ := sound
    by_cases current : epoch = state.cache.epoch key
    · subst current
      refine .inr ⟨source, template, held, made, ?_⟩
      simp only [Call.advance, Cache.putIfCurrent_epoch]
    · left
      simp only [Call.advance, Cache.putIfCurrent_of_ne current]

theorem Call.advance_sound {call later : Call} (sound : call.Sound surroundings state)
    (goes : (call.advance surroundings state.files state.cache).2 = some later) :
    later.Sound surroundings state := by
  obtain ⟨key, stage⟩ := call
  cases stage with
  | missed =>
    cases goes
    exact Nat.le_refl _
  | counted epoch =>
    simp only [Call.advance] at goes
    split at goes
    · rename_i source content
      cases goes
      exact ⟨sound, .inl content⟩
    · cases goes
  | read epoch source =>
    simp only [Call.advance] at goes
    split at goes
    · rename_i template made
      cases goes
      exact ⟨sound, made⟩
    · cases goes
  | compiled epoch source template => cases goes

namespace State

theorem invariant_start (files : List String → Except Error String) :
    (start files).Invariant surroundings := by
  refine ⟨Cache.distinct_empty, ?_, by simp [start]⟩
  intro key template found
  cases found

theorem Invariant.load (inv : state.Invariant surroundings) (key : List String) :
    (state.act surroundings (.load key)).Invariant surroundings := by
  simp only [act]
  split
  · exact inv
  · refine ⟨inv.distinct, inv.cached, fun call member => ?_⟩
    rcases List.mem_append.mp member with member | member
    · exact (inv.calls call member).mono (fun _ => Nat.le_refl _) fun _ _ _ held => ⟨held.1, held.2⟩
    · rw [List.mem_singleton.mp member]
      exact trivial

theorem Held.write {key : List String} {epoch : Nat} {source : String}
    (held : state.Held key epoch source) (written : List String) (content : Except Error String) :
    (state.act surroundings (.write written content)).Held key epoch source := by
  refine ⟨held.past, ?_⟩
  simp only [act, List.mem_append, List.mem_singleton]
  by_cases same : key = written
  · exact .inr (.inl (.inr same))
  · rw [if_neg same]
    rcases held.current with content | pending | older
    · exact .inl content
    · exact .inr (.inl (.inl pending))
    · exact .inr (.inr older)

theorem Invariant.write (inv : state.Invariant surroundings) (written : List String)
    (content : Except Error String) :
    (state.act surroundings (.write written content)).Invariant surroundings := by
  refine ⟨inv.distinct, ?_, ?_⟩
  · intro key template found
    simp only [act, Fresh, List.mem_append, List.mem_singleton]
    by_cases same : key = written
    · exact .inr (.inr same)
    · rw [if_neg same]
      rcases inv.cached key template found with fresh | pending
      · exact .inl fresh
      · exact .inr (.inl pending)
  · intro call member
    exact (inv.calls call member).mono (fun _ => Nat.le_refl _)
      fun _ _ _ held => held.write written content

theorem Held.evict {key : List String} {epoch : Nat} {source : String}
    (held : state.Held key epoch source) (evicted : List String) :
    (state.act surroundings (.evict evicted)).Held key epoch source := by
  have past := held.past
  simp only [act]
  refine ⟨Nat.le_trans past (Cache.epoch_le_epoch_evict _ _ _), ?_⟩
  by_cases same : key = evicted
  · subst same
    refine .inr (.inr ?_)
    rw [Cache.epoch_evict_self]
    omega
  · rw [Cache.epoch_evict_of_ne _ same]
    rcases held.current with content | pending | older
    · exact .inl content
    · exact .inr (.inl ((List.mem_erase_of_ne same).mpr pending))
    · exact .inr (.inr older)

theorem Invariant.evict (inv : state.Invariant surroundings) (evicted : List String) :
    (state.act surroundings (.evict evicted)).Invariant surroundings := by
  refine ⟨inv.distinct.evict evicted, ?_, ?_⟩
  · intro key template found
    by_cases same : key = evicted
    · subst same
      rw [act, Cache.get?_evict_self inv.distinct] at found
      cases found
    · rw [act, Cache.get?_evict_of_ne _ same] at found
      rcases inv.cached key template found with fresh | pending
      · exact .inl fresh
      · exact .inr ((List.mem_erase_of_ne same).mpr pending)
  · intro call member
    exact (inv.calls call member).mono (fun _ => Cache.epoch_le_epoch_evict _ _ _)
      fun _ _ _ held => held.evict evicted

theorem epoch_advance {call : Call} (sound : call.Sound surroundings state) (key : List String) :
    (call.advance surroundings state.files state.cache).1.epoch key = state.cache.epoch key := by
  rcases Call.advance_cache sound with same | ⟨source, template, _, _, put⟩
  · rw [same]
  · rw [put, Cache.epoch_put]

theorem cached_advance (inv : state.Invariant surroundings) {call : Call}
    (sound : call.Sound surroundings state) {key : List String} {template : Template}
    (found : (call.advance surroundings state.files state.cache).1.get? key = some template) :
    state.Fresh surroundings key template ∨ key ∈ state.pending := by
  rcases Call.advance_cache sound with same | ⟨source, made, held, compiled, put⟩
  · rw [same] at found
    exact inv.cached key template found
  · rw [put] at found
    by_cases own : key = call.key
    · subst own
      rw [Cache.get?_put_self] at found
      cases found
      rcases held.current with content | pending | older
      · exact .inl ⟨source, content, compiled⟩
      · exact .inr pending
      · exact absurd rfl older
    · rw [Cache.get?_put_of_ne _ _ own] at found
      exact inv.cached key template found

theorem distinct_advance (inv : state.Invariant surroundings) {call : Call}
    (sound : call.Sound surroundings state) :
    (call.advance surroundings state.files state.cache).1.Distinct := by
  rcases Call.advance_cache sound with same | ⟨source, template, _, _, put⟩
  · rw [same]
    exact inv.distinct
  · rw [put]
    exact inv.distinct.put _ _

theorem Invariant.advance (inv : state.Invariant surroundings) (index : Nat) :
    (state.act surroundings (.advance index)).Invariant surroundings := by
  simp only [act]
  split
  · exact inv
  · rename_i call found
    have sound := inv.calls call (List.mem_of_getElem? found)
    have epochs := epoch_advance sound
    refine ⟨distinct_advance inv sound, fun key template => cached_advance inv sound, ?_⟩
    intro other member
    -- Every load in the list was there before, or is the one that went on.
    have before : other.Sound surroundings state := by
      rcases List.mem_append.mp member with member | member
      · rcases List.mem_append.mp member with member | member
        · exact inv.calls other (List.mem_of_mem_take member)
        · exact Call.advance_sound sound (Option.mem_toList.mp member)
      · exact inv.calls other (List.mem_of_mem_drop member)
    refine before.mono (fun key => Nat.le_of_eq (epochs key).symm) fun key epoch source held => ?_
    refine ⟨Nat.le_trans held.past (Nat.le_of_eq (epochs key).symm), ?_⟩
    rw [epochs key]
    exact held.current

theorem Invariant.act (inv : state.Invariant surroundings) (action : Action) :
    (state.act surroundings action).Invariant surroundings := by
  cases action with
  | load key => exact inv.load key
  | advance index => exact inv.advance index
  | write key content => exact inv.write key content
  | evict key => exact inv.evict key

theorem Invariant.run (inv : state.Invariant surroundings) (actions : List Action) :
    (state.run surroundings actions).Invariant surroundings := by
  induction actions generalizing state with
  | nil => exact inv
  | cons action actions ih => exact ih (inv.act action)

theorem Invariant.held {call : Call} {epoch : Nat} {source : String}
    (inv : state.Invariant surroundings) (member : call ∈ state.calls)
    (holds : call.stage.held? = some (epoch, source)) : state.Held call.key epoch source := by
  have sound := inv.calls call member
  obtain ⟨key, stage⟩ := call
  cases stage with
  | missed => cases holds
  | counted epoch => cases holds
  | read epoch source =>
    cases holds
    exact sound
  | compiled epoch source template =>
    cases holds
    exact sound.1

end State

end Steps

theorem result_compileFile (session : Session) (path : String) :
    (session.compileFile [] path).result = session.disk.readSource path >>= fun source =>
      (Template.compile (session.surroundings (Path.parent? path)) [] source).result := by
  rw [Session.compileFile, Warned.result_bind, Warned.result_ofExcept]

/-- The steps of a load, one after the other without a break, are loading a file. -/
theorem cache_run_eq_cache_load (session : Session) (path : String)
    (files : List String → Except Error String) (surroundings : List String → Surroundings)
    (content : files (session.disk.key path) = session.disk.readSource path)
    (around : surroundings (session.disk.key path) = session.surroundings (Path.parent? path)) :
    (State.run surroundings ⟨files, session.cache, [], []⟩
      [.load (session.disk.key path), .advance 0, .advance 0, .advance 0, .advance 0]).cache =
      (session.load path).1.cache := by
  have made := result_compileFile session path
  cases found : session.cache.get? (session.disk.key path) with
  | some template => simp [State.run, State.act, Cache.contains, Session.load, found]
  | none =>
    cases read : session.disk.readSource path with
    | error e =>
      rw [read] at content made
      simp only [Bind.bind, Except.bind] at made
      simp [State.run, State.act, Cache.contains, Session.load, found, Call.advance, content, made]
    | ok source =>
      rw [read] at content made
      simp only [Bind.bind, Except.bind] at made
      cases compiled : (Template.compile (session.surroundings (Path.parent? path)) [] source).result with
      | error e =>
        rw [compiled] at made
        simp [State.run, State.act, Cache.contains, Session.load, found, Call.advance, content, made,
          compile, around, compiled]
      | ok template =>
        rw [compiled] at made
        simp [State.run, State.act, Cache.contains, Session.load, found, Call.advance, content, made,
          compile, around, compiled]

/-- No stale template survives its eviction, whatever the order of loads, writes and evictions. What
is cached is compiled from what the file holds now, or an eviction is still to come. Where a load
holds a text that the file no longer holds, an eviction is still to come, or one came after the load
took its epoch, and then the load stores nothing. -/
theorem fresh_or_pending_of_run (surroundings : List String → Surroundings)
    (files : List String → Except Error String) (actions : List Action) :
    let state := (State.start files).run surroundings actions
    (∀ key template, state.cache.get? key = some template →
      state.Fresh surroundings key template ∨ key ∈ state.pending) ∧
    (∀ call ∈ state.calls, ∀ epoch source, call.stage.held? = some (epoch, source) →
      state.files call.key ≠ .ok source →
        call.key ∈ state.pending ∨ (epoch ≠ state.cache.epoch call.key ∧
          ∀ template, state.cache.putIfCurrent call.key epoch template = (state.cache, false))) ∧
    (state.pending = [] → ∀ key template, state.cache.get? key = some template →
      state.Fresh surroundings key template) := by
  intro state
  have inv : state.Invariant surroundings := (State.invariant_start files).run actions
  refine ⟨inv.cached, ?_, ?_⟩
  · intro call member epoch source holds stale
    rcases (inv.held member holds).current with content | pending | older
    · exact absurd content stale
    · exact .inl pending
    · exact .inr ⟨older, Cache.putIfCurrent_of_ne older⟩
  · intro none key template found
    rcases inv.cached key template found with fresh | pending
    · exact fresh
    · rw [none] at pending
      cases pending

theorem fresh_or_pending_of_run_overtaken :
    let state := (State.start fun _ => .ok "<p/>").run (fun _ => ⟨.empty, fun _ => .directory, none⟩)
      [.load ["a"], .advance 0, .advance 0, .write ["a"] (.ok "<b/>"), .evict ["a"]]
    state.calls = [⟨["a"], .read 0 "<p/>"⟩] ∧ state.files ["a"] ≠ .ok "<p/>" ∧
      ∀ template, state.cache.putIfCurrent ["a"] 0 template = (state.cache, false) := by
  intro state
  have calls : state.calls = [⟨["a"], .read 0 "<p/>"⟩] := rfl
  have stale : state.files ["a"] ≠ .ok "<p/>" := by
    change (Except.ok "<b/>" : Except Error String) ≠ .ok "<p/>"
    simp
  refine ⟨calls, stale, ?_⟩
  rcases (fresh_or_pending_of_run _ _ _).2.1 ⟨["a"], .read 0 "<p/>"⟩ (by rw [calls]; simp) 0 "<p/>" rfl
    stale with pending | refused
  · cases pending
  · exact refused.2

end UiMarkup.Loading
