import UiMarkup.Proofs.Markup.Places

namespace UiMarkup.Reader

open Cursor (ReadsAtLeast)

/-- A reader that counts the open elements. A count is left also where reading fails. -/
structure Counting (α : Type) where
  counted : Nat → Except Error α × Nat

namespace Counting

variable {α β : Type}

instance : Monad Counting where
  pure a := ⟨fun count => (.ok a, count)⟩
  bind first next := ⟨fun count =>
    match first.counted count with
    | (.ok a, later) => (next a).counted later
    | (.error e, later) => (.error e, later)⟩

instance : MonadLift (Except Error) Counting where
  monadLift result := ⟨fun count => (result, count)⟩

def depth : Counting Nat :=
  ⟨fun count => (.ok count, count)⟩

def inside (reader : Counting α) : Counting α :=
  ⟨fun count =>
    let (result, inner) := reader.counted (count + 1)
    (result, inner - 1)⟩

def result (reader : Counting α) (count : Nat) : Except Error α :=
  (reader.counted count).1

def countAfter (reader : Counting α) (count : Nat) : Nat :=
  (reader.counted count).2

def Balanced (reader : Counting α) : Prop :=
  ∀ count, reader.countAfter count = count

theorem balanced_pure (a : α) : Balanced (pure a) :=
  fun _ => rfl

theorem balanced_lift (result : Except Error α) : Balanced (liftM result) :=
  fun _ => rfl

theorem balanced_depth : Balanced depth :=
  fun _ => rfl

theorem Balanced.inside {reader : Counting α} (h : Balanced reader) : Balanced (inside reader) := by
  intro count
  have inner : (reader.counted (count + 1)).2 = count + 1 := h (count + 1)
  simp only [countAfter, Counting.inside, inner]
  omega

theorem Balanced.bind {first : Counting α} {next : α → Counting β} (h : Balanced first)
    (k : ∀ a, Balanced (next a)) : Balanced (first >>= next) := by
  intro count
  have start : (first.counted count).2 = count := h count
  simp only [countAfter, Bind.bind]
  split
  · rename_i a later here
    rw [here] at start
    have last : ((next a).counted later).2 = later := k a later
    rw [last, ← start]
  · rename_i e later here
    rw [here] at start
    exact start

theorem result_depth_bind (next : Nat → Counting β) (count : Nat) :
    (depth >>= next).result count = (next count).result count := rfl

theorem result_lift_bind (result : Except Error α) (next : α → Counting β) (count : Nat) :
    ((liftM result : Counting α) >>= next).result count =
      result >>= fun a => (next a).result count := by
  cases result <;> rfl

theorem Balanced.result_bind {first : Counting α} (h : Balanced first) (next : α → Counting β)
    (count : Nat) :
    (first >>= next).result count = first.result count >>= fun a => (next a).result count := by
  have start : (first.counted count).2 = count := h count
  simp only [result, Bind.bind]
  split
  · rename_i a later here
    rw [here] at start ⊢
    rw [← start]
    rfl
  · rename_i e later here
    rw [here]
    rfl

end Counting

def readClosing (tag : String) (cursor : Cursor) : Except Error Cursor := do
  let (closing, named) ← readName (cursor.skip 2)
  let later ← expect '>' named.skipBlanks
  if Text.sameLetters closing tag then return later
  else failAt cursor (.mismatched tag closing)

def Frame.readText (frame : Frame) (cursor : Cursor) : Frame :=
  let text := Text.collapse (Entity.decode (cursor.run (· != '<')))
  if text.isEmpty then frame else frame.add (.text (String.ofList text))

namespace Descent

open Counting (depth inside Balanced)

mutual

def element : (fuel : Nat) → Cursor → Counting (Element × Cursor)
  | 0, cursor => liftM (failAt cursor .endInsideTag : Except Error _)
  | fuel + 1, cursor => do
    let (opening, later) ← readOpening (← depth) cursor
    let frame : Frame := ⟨opening.tag, opening.position, opening.attributes, []⟩
    if opening.complete then return (frame.close, later)
    else inside (contents fuel frame later)

def contents : (fuel : Nat) → Frame → Cursor → Counting (Element × Cursor)
  | 0, frame, _ => liftM (.error (.markup frame.position (.unclosed frame.tag)) : Except Error _)
  | fuel + 1, frame, cursor =>
    if atComment cursor then do
      contents fuel frame (← skipComment cursor)
    else
      match cursor.rest with
      | [] => liftM (.error (.markup frame.position (.unclosed frame.tag)) : Except Error _)
      | '<' :: '/' :: _ => do return (frame.close, ← readClosing frame.tag cursor)
      | '<' :: _ => do
        let (child, later) ← element fuel cursor
        contents fuel (frame.add (.element child)) later
      | _ => contents fuel (frame.readText cursor) (cursor.skipWhile (· != '<'))

end

def elements : (fuel : Nat) → List Element → Cursor → Counting (List Element)
  | 0, read, _ => return read.reverse
  | fuel + 1, read, start => do
    let cursor ← skipTrivia start
    match cursor.rest with
    | [] => return read.reverse
    | '<' :: '/' :: _ => liftM (failAt cursor .strayClosing : Except Error _)
    | '<' :: _ => do
      let (next, later) ← element fuel cursor
      elements fuel (next :: read) later
    | _ => liftM (failAt cursor .textOutside : Except Error _)

def document (text : List Char) : Counting Document := do
  let (script, later) ← readHead text
  let read ← elements (2 * later.rest.length + 2) [] later
  return ⟨script, read⟩

open Counting (balanced_pure balanced_lift balanced_depth)

theorem balanced_element_contents (fuel : Nat) :
    (∀ cursor, Balanced (element fuel cursor)) ∧ ∀ frame cursor, Balanced (contents fuel frame cursor) := by
  induction fuel with
  | zero =>
    constructor
    · intro cursor
      exact balanced_lift _
    · intro frame cursor
      exact balanced_lift _
  | succ fuel ih =>
    constructor
    · intro cursor
      rw [element]
      apply balanced_depth.bind
      intro count
      apply (balanced_lift _).bind
      intro read
      simp only
      split
      · exact balanced_pure _
      · exact (ih.2 _ _).inside
    · intro frame cursor
      rw [contents]
      split
      · apply (balanced_lift _).bind
        intro later
        exact ih.2 frame later
      · split
        · exact balanced_lift _
        · apply (balanced_lift _).bind
          intro later
          exact balanced_pure _
        · apply (ih.1 cursor).bind
          intro read
          exact ih.2 _ _
        · exact ih.2 _ _

theorem balanced_element (fuel : Nat) (cursor : Cursor) : Balanced (element fuel cursor) :=
  (balanced_element_contents fuel).1 cursor

theorem balanced_elements (fuel : Nat) (read : List Element) (start : Cursor) :
    Balanced (elements fuel read start) := by
  induction fuel generalizing read start with
  | zero => exact balanced_pure _
  | succ fuel ih =>
    rw [elements]
    apply (balanced_lift _).bind
    intro cursor
    split
    · exact balanced_pure _
    · exact balanced_lift _
    · apply (balanced_element fuel cursor).bind
      intro found
      exact ih _ _
    · exact balanced_lift _

theorem readClosing_ok {tag : String} {cursor later : Cursor} (start : 2 ≤ cursor.rest.length)
    (h : readClosing tag cursor = .ok later) : ReadsAtLeast 4 cursor later := by
  unfold readClosing at h
  obtain ⟨⟨closing, named⟩, name, h⟩ := ok_of_bind h
  obtain ⟨last, angle, h⟩ := ok_of_bind h
  obtain ⟨⟨c, more, shape, _⟩, readsName⟩ := readName_ok name
  have slash := Cursor.readsAtLeast_skip start
  have tagName : ReadsAtLeast 1 (cursor.skip 2) named := readsName.atLeast (by simp [shape])
  have gap := Cursor.readsAtLeast_skipBlanks named
  have close : ReadsAtLeast 1 named.skipBlanks last := (expect_ok angle).atLeast (by simp)
  split at h
  · cases h
    exact ((slash.trans tagName).trans gap).trans close
  · cases h

theorem shorter_element_contents (fuel : Nat) :
    (∀ cursor count read, (element fuel cursor).result count = .ok read →
      read.2.rest.length < cursor.rest.length) ∧
    ∀ frame cursor count read, (contents fuel frame cursor).result count = .ok read →
      read.2.rest.length ≤ cursor.rest.length := by
  induction fuel with
  | zero =>
    constructor
    · intro cursor count read h
      cases h
    · intro frame cursor count read h
      cases h
  | succ fuel ih =>
    constructor
    · intro cursor count read h
      rw [element, Counting.result_depth_bind, Counting.result_lift_bind] at h
      obtain ⟨⟨opening, later⟩, opened, h⟩ := ok_of_bind h
      have start := (readOpening_ok opened).reads.length_le
      simp only at h
      split at h
      · cases h
        simp only
        omega
      · have inner := ih.2 _ later (count + 1) read h
        omega
    · intro frame cursor count read h
      rw [contents] at h
      split at h
      · rw [Counting.result_lift_bind] at h
        obtain ⟨later, skipped, h⟩ := ok_of_bind h
        have comment := (skipComment_ok skipped).length_le
        have rest := ih.2 _ _ _ _ h
        omega
      · split at h
        · cases h
        · rename_i more here
          rw [Counting.result_lift_bind] at h
          obtain ⟨later, closed, done⟩ := ok_of_bind h
          cases done
          have size := (readClosing_ok (by simp [here]) closed).length_le
          simp only
          omega
        · rw [(balanced_element fuel cursor).result_bind] at h
          obtain ⟨⟨child, later⟩, first, h⟩ := ok_of_bind h
          have inner := ih.1 _ _ _ first
          have rest := ih.2 _ _ _ _ h
          simp only at inner rest
          omega
        · have text := ((Cursor.reads_skipWhile cursor (· != '<')).atLeast (Nat.zero_le _)).length_le
          have rest := ih.2 _ _ _ _ h
          omega

end Descent

namespace Progress

theorem run_eq (progress : Progress) :
    progress.run = progress.step >>= fun next => next.elim progress.finish run := by
  rcases here : progress.step with e | _ | next
  · exact run_of_error here
  · exact run_of_end here
  · exact run_of_step here

theorem closeElement_eq (progress : Progress) (frame : Frame) (outer : List Frame) :
    progress.closeElement frame outer =
      readClosing frame.tag progress.cursor >>= fun later => .ok (progress.closed frame outer later) := by
  unfold closeElement readClosing
  cases readName (progress.cursor.skip 2) with
  | error e => rfl
  | ok name =>
    simp only [Bind.bind, Except.bind]
    cases expect '>' name.2.skipBlanks with
    | error e => rfl
    | ok later =>
      simp only
      split <;> rfl

theorem addText_eq (cursor : Cursor) (frame : Frame) (outer : List Frame) (elements : List Element) :
    addText ⟨cursor, frame :: outer, elements⟩ frame outer =
      ⟨cursor.skipWhile (· != '<'), frame.readText cursor :: outer, elements⟩ := by
  unfold addText Frame.readText
  simp only
  split <;> rfl

theorem opening_bind (progress : Progress) (opened : Except Error Progress) :
    (some <$> opened >>= fun next => next.elim progress.finish run) = opened >>= run := by
  cases opened <;> rfl

open Descent (balanced_element)

theorem rest_cases (rest : List Char) :
    rest = [] ∨ (∃ more, rest = '<' :: '/' :: more) ∨
      (∃ more, rest = '<' :: more ∧ ∀ tail, more = '/' :: tail → False) ∨
      ((rest = [] → False) ∧ (∀ tail, rest = '<' :: '/' :: tail → False) ∧
        ∀ tail, rest = '<' :: tail → False) := by
  cases rest with
  | nil => exact .inl rfl
  | cons c more =>
    by_cases angle : c = '<'
    · subst angle
      by_cases slash : ∃ tail, more = '/' :: tail
      · obtain ⟨tail, rfl⟩ := slash
        exact .inr (.inl ⟨tail, rfl⟩)
      · exact .inr (.inr (.inl ⟨more, rfl, fun tail same => slash ⟨tail, same⟩⟩))
    · have other : ∀ tail, c :: more = '<' :: tail → False := by
        intro tail same
        exact angle (List.cons.inj same).1
      exact .inr (.inr (.inr ⟨by simp, fun tail => other _, other⟩))

/-- Behind an opening tag, the steps of the reader go the way of the descent to the end of the
element, and then on from there. -/
def FollowsElement (fuel : Nat) : Prop :=
  ∀ (progress : Progress) cursor, 2 * cursor.rest.length + 1 ≤ fuel →
    progress.openElement cursor >>= run =
      (Descent.element fuel cursor).result progress.frames.length >>= fun read =>
        run ((progress.moveTo read.2).add read.1)

def FollowsContents (fuel : Nat) : Prop :=
  ∀ frame outer elements cursor, 2 * cursor.rest.length + 2 ≤ fuel →
    run ⟨cursor, frame :: outer, elements⟩ =
      (Descent.contents fuel frame cursor).result (outer.length + 1) >>= fun read =>
        run (add ⟨read.2, outer, elements⟩ read.1)

theorem FollowsContents.element {fuel : Nat} (h : FollowsContents fuel) : FollowsElement (fuel + 1) := by
  intro progress cursor enough
  rw [openElement_eq, Descent.element, Counting.result_depth_bind, Counting.result_lift_bind]
  cases read : readOpening progress.frames.length cursor with
  | error e => rfl
  | ok found =>
    obtain ⟨opening, later⟩ := found
    have shorter := (readOpening_ok read).reads.length_le
    simp only [Bind.bind, Except.bind]
    cases complete : opening.complete with
    | true =>
      simp only [opened, complete, ↓reduceIte]
      rfl
    | false =>
      simp only [opened, complete, Bool.false_eq_true, ↓reduceIte]
      exact h _ _ _ later (by omega)

theorem FollowsContents.contents {fuel : Nat} (h : FollowsContents fuel) (k : FollowsElement fuel) :
    FollowsContents (fuel + 1) := by
  intro frame outer elements cursor enough
  rw [run_eq]
  cases comment : atComment cursor with
  | true =>
    simp only [step, Descent.contents, comment, ↓reduceIte]
    rw [Counting.result_lift_bind]
    cases skipped : skipComment cursor with
    | error e => rfl
    | ok later =>
      have shorter := (skipComment_ok skipped).length_le
      exact h frame outer elements later (by omega)
  | false =>
    rcases rest_cases cursor.rest with here | ⟨more, here⟩ | ⟨more, here, other⟩ | ⟨filled, closing, opening⟩
    · simp only [step, Descent.contents, comment, here, Bool.false_eq_true, ↓reduceIte]
      rfl
    · simp only [step, Descent.contents, comment, here, Bool.false_eq_true, ↓reduceIte]
      rw [Counting.result_lift_bind, closeElement_eq]
      cases readClosing frame.tag cursor <;> rfl
    · -- the child is read with the count that the stack has, and what follows it with the same one
      simp only [step, Descent.contents, comment, here, Bool.false_eq_true, ↓reduceIte]
      have first := k ⟨cursor, frame :: outer, elements⟩ cursor (by omega)
      simp only [List.length_cons] at first
      rw [(balanced_element fuel cursor).result_bind, opening_bind, first]
      cases read : (Descent.element fuel cursor).result (outer.length + 1) with
      | error e => rfl
      | ok found =>
        have shorter := (Descent.shorter_element_contents fuel).1 _ _ _ read
        exact h (frame.add (.element found.1)) outer elements found.2 (by omega)
    · have shorter := (readsAtLeast_text filled opening).length_le
      simp only [step, Descent.contents, comment, Bool.false_eq_true, ↓reduceIte]
      rw [addText_eq]
      exact h (frame.readText cursor) outer elements (cursor.skipWhile (· != '<')) (by omega)

theorem follows (fuel : Nat) : FollowsElement fuel ∧ FollowsContents fuel := by
  induction fuel with
  | zero =>
    constructor
    · intro progress cursor enough
      omega
    · intro frame outer elements cursor enough
      omega
  | succ fuel ih => exact ⟨ih.2.element, ih.2.contents ih.1⟩

theorem run_descent {fuel : Nat} (read : List Element) {start : Cursor}
    (enough : 2 * start.rest.length + 2 ≤ fuel) :
    run ⟨start, [], read⟩ = (Descent.elements fuel read start).result 0 := by
  induction fuel generalizing read start with
  | zero => omega
  | succ fuel ih =>
    rw [run_eq, Descent.elements, Counting.result_lift_bind]
    simp only [step]
    cases skipped : skipTrivia start with
    | error e => rfl
    | ok cursor =>
      have trivia := (skipTriviaWithin_ok skipped).length_le
      rw [ok_bind, ok_bind]
      rcases rest_cases cursor.rest with here | ⟨more, here⟩ | ⟨more, here, other⟩ | ⟨filled, closing, opening⟩
      · simp only [here]
        rfl
      · simp only [here]
        rfl
      · simp only [here]
        have first := (follows fuel).1 ⟨start, [], read⟩ cursor (by omega)
        have rest := (balanced_element fuel cursor).result_bind
          (fun found => Descent.elements fuel (found.1 :: read) found.2) 0
        refine (opening_bind _ _).trans (first.trans (Eq.trans ?_ rest.symm))
        cases result : (Descent.element fuel cursor).result 0 with
        | error e => rfl
        | ok found =>
          have shorter := (Descent.shorter_element_contents fuel).1 _ _ _ result
          have later : 2 * found.2.rest.length + 2 ≤ fuel := by omega
          exact ih (found.1 :: read) later
      · simp only
        rfl

end Progress

/-- The descent reads every text as the reader with a stack does. -/
theorem result_document (text : List Char) : (Descent.document text).result 0 = readDocument text := by
  rw [readDocument_eq, Descent.document, Counting.result_lift_bind]
  cases readHead text with
  | error e => rfl
  | ok head =>
    have elements := Progress.run_descent [] (Nat.le_refl (2 * head.2.rest.length + 2))
    rw [ok_bind, ok_bind]
    simp only [elements]
    rw [(Descent.balanced_elements _ [] head.2).result_bind]
    rfl

end UiMarkup.Reader
