import UiMarkup.Proofs.Markup.Outcome

namespace UiMarkup

theorem ok_of_some_map {ε α : Type} {first : Except ε α} {value : α}
    (h : some <$> first = .ok (some value)) : first = .ok value := by
  cases first with
  | error e => simp [Functor.map, Except.map] at h
  | ok found =>
    simp only [Functor.map, Except.map, Except.ok.injEq, Option.some.injEq] at h
    rw [h]

namespace Reader

open Cursor (ReadsAtLeast)

namespace Progress

variable {progress next : Progress}

def opened (progress : Progress) (opening : Opening) (later : Cursor) : Progress :=
  if opening.complete then
    (progress.moveTo later).add ⟨opening.tag, opening.position, opening.attributes, []⟩
  else
    { progress with
      cursor := later
      frames := ⟨opening.tag, opening.position, opening.attributes, []⟩ :: progress.frames }

def closed (progress : Progress) (frame : Frame) (outer : List Frame) (later : Cursor) : Progress :=
  { progress with cursor := later, frames := outer }.add frame.close

/-- What one step of reading a document does. -/
inductive Steps (progress : Progress) : Progress → Prop
  | opening {start later : Cursor} {opening : Opening}
      (gap : ReadsAtLeast 0 progress.cursor start)
      (opens : Opens progress.frames.length start opening later) :
      Steps progress (progress.opened opening later)
  | closing {frame : Frame} {outer : List Frame} {later : Cursor}
      (inside : progress.frames = frame :: outer) (reads : ReadsAtLeast 4 progress.cursor later) :
      Steps progress (progress.closed frame outer later)
  | text {frame : Frame} {outer : List Frame} (inside : progress.frames = frame :: outer)
      (reads : ReadsAtLeast 1 progress.cursor (progress.addText frame outer).cursor) :
      Steps progress (progress.addText frame outer)
  | comment {later : Cursor} (inside : progress.frames ≠ [])
      (reads : ReadsAtLeast 3 progress.cursor later) : Steps progress (progress.moveTo later)

theorem openElement_eq (progress : Progress) (start : Cursor) :
    progress.openElement start =
      readOpening progress.frames.length start >>= fun read => .ok (progress.opened read.1 read.2) := by
  unfold openElement opened
  cases readOpening progress.frames.length start with
  | error e => rfl
  | ok read =>
    simp only [Bind.bind, Except.bind]
    split <;> rfl

theorem openElement_ok {start : Cursor} (h : progress.openElement start = .ok next) :
    ∃ opening later, Opens progress.frames.length start opening later ∧
      next = progress.opened opening later := by
  rw [openElement_eq] at h
  obtain ⟨⟨opening, later⟩, read, done⟩ := ok_of_bind h
  cases done
  exact ⟨opening, later, readOpening_ok read, rfl⟩

theorem closeElement_ok {frame : Frame} {outer : List Frame}
    (start : 2 ≤ progress.cursor.rest.length)
    (h : progress.closeElement frame outer = .ok next) :
    ∃ later, ReadsAtLeast 4 progress.cursor later ∧ next = progress.closed frame outer later := by
  unfold closeElement at h
  obtain ⟨⟨closing, named⟩, name, h⟩ := ok_of_bind h
  obtain ⟨later, angle, h⟩ := ok_of_bind h
  obtain ⟨⟨c, more, shape, _⟩, readsName⟩ := readName_ok name
  split at h
  · cases h
    have slash := Cursor.readsAtLeast_skip start
    have tag : ReadsAtLeast 1 (progress.cursor.skip 2) named := readsName.atLeast (by simp [shape])
    have gap := Cursor.readsAtLeast_skipBlanks named
    have finish : ReadsAtLeast 1 named.skipBlanks later := (expect_ok angle).atLeast (by simp)
    exact ⟨later, ((slash.trans tag).trans gap).trans finish, rfl⟩
  · simp [failAt] at h

theorem cursor_addText (frame : Frame) (outer : List Frame) :
    (progress.addText frame outer).cursor = progress.cursor.skipWhile (· != '<') := by
  unfold addText
  simp only
  split <;> rfl

theorem readsAtLeast_text {cursor : Cursor} (filled : cursor.rest ≠ [])
    (other : ∀ more, cursor.rest ≠ '<' :: more) :
    ReadsAtLeast 1 cursor (cursor.skipWhile (· != '<')) := by
  refine (Cursor.reads_skipWhile _ _).atLeast ?_
  obtain ⟨c, more, here⟩ := List.exists_cons_of_ne_nil filled
  have char : c ≠ '<' := by
    rintro rfl
    exact other more here
  simp [Cursor.run, here, char]

theorem step_ok (h : progress.step = .ok (some next)) : Steps progress next := by
  unfold step at h
  split at h
  · obtain ⟨start, trivia, h⟩ := ok_of_bind h
    have gap := skipTriviaWithin_ok trivia
    split at h
    · simp [Pure.pure, Except.pure] at h
    · simp [failAt] at h
    · obtain ⟨opening, later, opens, rfl⟩ := openElement_ok (ok_of_some_map h)
      exact .opening gap opens
    · simp [failAt] at h
  · rename_i frame outer inside
    split at h
    · obtain ⟨later, comment, done⟩ := ok_of_bind h
      cases done
      exact .comment (by simp [inside]) (skipComment_ok comment)
    · split at h
      · simp at h
      · rename_i more here
        obtain ⟨later, reads, rfl⟩ := closeElement_ok (by simp [here]) (ok_of_some_map h)
        exact .closing inside reads
      · obtain ⟨opening, later, opens, rfl⟩ := openElement_ok (ok_of_some_map h)
        exact .opening (ReadsAtLeast.refl _) opens
      · rename_i filled _ other
        cases h
        refine .text inside ?_
        rw [cursor_addText]
        exact readsAtLeast_text filled other

theorem Steps.shorter (h : Steps progress next) :
    next.cursor.rest.length < progress.cursor.rest.length := by
  cases h with
  | @opening start later opening gap opens =>
    have size := (gap.trans opens.reads).length_le
    have same : (progress.opened opening later).cursor = later := by
      unfold opened moveTo add
      split
      · split <;> rfl
      · rfl
    rw [same]
    omega
  | @closing frame outer later inside reads =>
    have size := reads.length_le
    have same : (progress.closed frame outer later).cursor = later := by
      unfold closed add
      split <;> rfl
    rw [same]
    omega
  | text inside reads =>
    have size := reads.length_le
    omega
  | comment inside reads =>
    have size := reads.length_le
    simp only [moveTo]
    omega

def run (progress : Progress) : Except Error (List Element) :=
  runWithin progress.cursor.rest.length progress

theorem runWithin_succ (steps : Nat) (progress : Progress) :
    runWithin (steps + 1) progress =
      match progress.step with
      | .error e => .error e
      | .ok none => progress.finish
      | .ok (some next) => runWithin steps next := by
  rw [runWithin]
  rcases progress.step with e | _ | next <;> rfl

theorem runWithin_at_end (steps : Nat) (h : progress.cursor.rest = []) :
    runWithin steps progress = progress.finish := by
  obtain ⟨⟨position, rest⟩, frames, elements⟩ := progress
  simp only at h
  subst h
  cases steps with
  | zero => rfl
  | succ steps =>
    rw [runWithin_succ]
    cases frames <;> rfl

theorem runWithin_eq_run {steps : Nat} (enough : progress.cursor.rest.length ≤ steps) :
    runWithin steps progress = progress.run := by
  induction size : progress.cursor.rest.length using Nat.strongRecOn generalizing progress steps with
  | ind n ih =>
    unfold run
    rw [size]
    cases n with
    | zero =>
      have done : progress.cursor.rest = [] := List.length_eq_zero_iff.mp size
      rw [runWithin_at_end _ done, runWithin_at_end _ done]
    | succ n =>
      obtain ⟨more, rfl⟩ : ∃ more, steps = more + 1 := ⟨steps - 1, by omega⟩
      rw [runWithin_succ, runWithin_succ]
      split
      · rfl
      · rfl
      · rename_i next here
        have shorter := (step_ok here).shorter
        rw [ih next.cursor.rest.length (by omega) (by omega) rfl,
          ih next.cursor.rest.length (by omega) (by omega) rfl]

theorem run_of_step (h : progress.step = .ok (some next)) : progress.run = next.run := by
  have shorter := (step_ok h).shorter
  rw [← runWithin_eq_run (Nat.le_succ _), runWithin_succ, h]
  exact runWithin_eq_run (by omega)

theorem run_of_end (h : progress.step = .ok none) : progress.run = progress.finish := by
  rw [← runWithin_eq_run (Nat.le_succ _), runWithin_succ, h]

theorem run_of_error {e : Error} (h : progress.step = .error e) : progress.run = .error e := by
  rw [← runWithin_eq_run (Nat.le_succ _), runWithin_succ, h]

/-- What holds at the start and is kept by every step holds where the document ends. -/
theorem finish_of_run {invariant : Progress → Prop} {elements : List Element}
    (kept : ∀ progress next, invariant progress → Steps progress next → invariant next)
    (start : invariant progress) (h : progress.run = .ok elements) :
    ∃ last, invariant last ∧ last.finish = .ok elements := by
  induction size : progress.cursor.rest.length using Nat.strongRecOn generalizing progress with
  | ind n ih =>
    rcases found : progress.step with e | _ | next
    · rw [run_of_error found] at h
      cases h
    · rw [run_of_end found] at h
      exact ⟨progress, start, h⟩
    · have step := step_ok found
      rw [run_of_step found] at h
      have shorter := step.shorter
      exact ih _ (by omega) (kept _ _ start step) h rfl

theorem failure_of_run {invariant : Progress → Prop} {e : Error}
    (kept : ∀ progress next, invariant progress → Steps progress next → invariant next)
    (start : invariant progress) (h : progress.run = .error e) :
    ∃ last, invariant last ∧ (last.step = .error e ∨ last.finish = .error e) := by
  induction size : progress.cursor.rest.length using Nat.strongRecOn generalizing progress with
  | ind n ih =>
    rcases found : progress.step with e' | _ | next
    · rw [run_of_error found] at h
      cases h
      exact ⟨progress, start, .inl found⟩
    · rw [run_of_end found] at h
      exact ⟨progress, start, .inr h⟩
    · have step := step_ok found
      rw [run_of_step found] at h
      have shorter := step.shorter
      exact ih _ (by omega) (kept _ _ start step) h rfl

end Progress

end Reader

end UiMarkup
