import UiMarkup.Proofs.Markup.Descent
import UiMarkup.Proofs.Markup.Loops

namespace UiMarkup.Reader

open Cursor (ReadsAtLeast)

theorem two_le_length_of_isVoid {tag : String} (void : isVoid tag = true) : 2 ≤ tag.toList.length := by
  have member : Text.lower tag ∈ voidTags := by simpa [isVoid] using void
  have table : ∀ name ∈ voidTags, 2 ≤ name.toList.length := by decide
  have size := table _ member
  rw [Text.lower, String.toList_ofList, Text.length_lowered] at size
  exact size

/-- A tag that ends its element has four characters or more: it has a slash, or a name of two
letters. -/
theorem readsAtLeast_of_complete {depth : Nat} {opening : Opening} {cursor later : Cursor}
    (h : readOpening depth cursor = .ok (opening, later)) (complete : opening.complete = true) :
    ReadsAtLeast 4 cursor later := by
  obtain ⟨opened, named, last, angle, name, _, _, attributes, _, ends⟩ := readOpening_parts h
  obtain ⟨⟨c, more, shape, _⟩, readsName⟩ := readName_ok name
  obtain ⟨_, _, readsAttributes⟩ := readAttributes_ok attributes
  have start := (expect_ok angle).trans readsName
  rcases ends with ⟨_, ⟨tail, here⟩, rfl⟩ | ⟨isComplete, close⟩
  · have before : ReadsAtLeast 2 cursor last := (start.atLeast (by simp [shape])).trans readsAttributes
    have finish : ReadsAtLeast 2 last (last.skip 2) := Cursor.readsAtLeast_skip (by simp [here])
    exact before.trans finish
  · have size := two_le_length_of_isVoid (isComplete.symm.trans complete)
    have before : ReadsAtLeast 3 cursor last := (start.atLeast (by simp; omega)).trans readsAttributes
    have finish : ReadsAtLeast 1 last later := (expect_ok close).atLeast (by simp)
    exact before.trans finish

theorem Frame.length_all_add (frame : Frame) (child : Element) :
    (frame.add (.element child)).close.all.length = frame.close.all.length + child.all.length := by
  simp [Element.all_eq, Frame.close, Frame.add, Content.all_append, Content.all]
  omega

theorem Frame.length_all_readText (frame : Frame) (cursor : Cursor) :
    (frame.readText cursor).close.all.length = frame.close.all.length := by
  unfold Frame.readText
  simp only
  split
  · rfl
  · simp [Element.all_eq, Frame.close, Frame.add, Content.all_append, Content.all]

/-- The content of an open element: a turn reads a comment, a text or, with `reader`, an element, or
it reads the closing tag. -/
def contentsTurn (reader : Cursor → Except Error (Element × Cursor)) (state : Frame × Cursor) :
    Except Error ((Element × Cursor) ⊕ (Frame × Cursor)) :=
  if atComment state.2 then do
    return .inr (state.1, ← skipComment state.2)
  else
    match state.2.rest with
    | [] => .error (.markup state.1.position (.unclosed state.1.tag))
    | '<' :: '/' :: _ => do return .inl (state.1.close, ← readClosing state.1.tag state.2)
    | '<' :: _ => do
      let (child, later) ← reader state.2
      return .inr (state.1.add (.element child), later)
    | _ => return .inr (state.1.readText state.2, state.2.skipWhile (· != '<'))

def elementsTurn (reader : Cursor → Except Error (Element × Cursor)) (state : List Element × Cursor) :
    Except Error (List Element ⊕ (List Element × Cursor)) := do
  let cursor ← skipTrivia state.2
  match cursor.rest with
  | [] => return .inl state.1.reverse
  | '<' :: '/' :: _ => failAt cursor .strayClosing
  | '<' :: _ => do
    let (next, later) ← reader cursor
    return .inr (next :: state.1, later)
  | _ => failAt cursor .textOutside

inductive ContentsStep (reader : Cursor → Except Error (Element × Cursor)) (frame : Frame)
    (cursor : Cursor) : (Element × Cursor) ⊕ (Frame × Cursor) → Prop
  | comment {later : Cursor} (reads : ReadsAtLeast 3 cursor later) :
      ContentsStep reader frame cursor (.inr (frame, later))
  | closing {later : Cursor} (reads : ReadsAtLeast 4 cursor later) :
      ContentsStep reader frame cursor (.inl (frame.close, later))
  | child {child : Element} {later : Cursor} (read : reader cursor = .ok (child, later)) :
      ContentsStep reader frame cursor (.inr (frame.add (.element child), later))
  | text {later : Cursor} (reads : ReadsAtLeast 1 cursor later) :
      ContentsStep reader frame cursor (.inr (frame.readText cursor, later))

theorem contentsTurn_ok {reader : Cursor → Except Error (Element × Cursor)} {frame : Frame}
    {cursor : Cursor} {outcome : (Element × Cursor) ⊕ (Frame × Cursor)}
    (h : contentsTurn reader (frame, cursor) = .ok outcome) : ContentsStep reader frame cursor outcome := by
  unfold contentsTurn at h
  simp only at h
  split at h
  · obtain ⟨later, comment, done⟩ := ok_of_bind h
    cases done
    exact .comment (skipComment_ok comment)
  · split at h
    · cases h
    · rename_i more here
      obtain ⟨later, closed, done⟩ := ok_of_bind h
      cases done
      exact .closing (Descent.readClosing_ok (by simp [here]) closed)
    · obtain ⟨⟨child, later⟩, read, done⟩ := ok_of_bind h
      cases done
      exact .child read
    · rename_i filled closing opening
      cases h
      exact .text (Progress.readsAtLeast_text filled opening)

theorem elementsTurn_ok {reader : Cursor → Except Error (Element × Cursor)}
    {state later : List Element × Cursor} (h : elementsTurn reader state = .ok (.inr later)) :
    ∃ cursor next, ReadsAtLeast 0 state.2 cursor ∧ reader cursor = .ok (next, later.2) ∧
      later.1 = next :: state.1 := by
  unfold elementsTurn at h
  obtain ⟨cursor, trivia, h⟩ := ok_of_bind h
  split at h
  · cases h
  · cases h
  · obtain ⟨⟨next, behind⟩, read, done⟩ := ok_of_bind h
    cases done
    exact ⟨cursor, next, skipTriviaWithin_ok trivia, read, rfl⟩
  · cases h

theorem elementsTurn_end {reader : Cursor → Except Error (Element × Cursor)}
    {state : List Element × Cursor} {elements : List Element}
    (h : elementsTurn reader state = .ok (.inl elements)) : elements = state.1.reverse := by
  unfold elementsTurn at h
  obtain ⟨cursor, trivia, h⟩ := ok_of_bind h
  split at h
  · cases h
    rfl
  · cases h
  · obtain ⟨read, _, done⟩ := ok_of_bind h
    cases done
  · cases h

theorem contentsTurn_congr {reader other : Cursor → Except Error (Element × Cursor)}
    {state : Frame × Cursor} (same : reader state.2 = other state.2) :
    contentsTurn reader state = contentsTurn other state := by
  simp only [contentsTurn, same]

theorem elementsTurn_congr {reader other : Cursor → Except Error (Element × Cursor)}
    {state : List Element × Cursor}
    (same : ∀ cursor, skipTrivia state.2 = .ok cursor → reader cursor = other cursor) :
    elementsTurn reader state = elementsTurn other state := by
  rw [elementsTurn, elementsTurn]
  cases trivia : skipTrivia state.2 with
  | error e => rfl
  | ok cursor => simp only [ok_bind, same cursor trivia]

namespace Descent

open Counting (depth inside result_depth_bind result_lift_bind)

theorem result_element (fuel : Nat) (cursor : Cursor) (count : Nat) :
    (element (fuel + 1) cursor).result count =
      readOpening count cursor >>= fun read =>
        if read.1.complete then .ok ((⟨read.1.tag, read.1.position, read.1.attributes, []⟩ : Frame).close, read.2)
        else (contents fuel ⟨read.1.tag, read.1.position, read.1.attributes, []⟩ read.2).result (count + 1) := by
  rw [element, result_depth_bind, result_lift_bind]
  cases readOpening count cursor with
  | error e => rfl
  | ok read =>
    rw [ok_bind, ok_bind]
    simp only
    split <;> rfl

theorem result_contents (fuel : Nat) (state : Frame × Cursor) (count : Nat) :
    (contents (fuel + 1) state.1 state.2).result count =
      contentsTurn (fun cursor => (element fuel cursor).result count) state >>=
        Sum.elim .ok fun later => (contents fuel later.1 later.2).result count := by
  obtain ⟨frame, cursor⟩ := state
  rw [contents, contentsTurn]
  simp only
  cases comment : atComment cursor with
  | true =>
    simp only [↓reduceIte]
    rw [result_lift_bind]
    cases skipComment cursor <;> rfl
  | false =>
    simp only [Bool.false_eq_true, ↓reduceIte]
    rcases Progress.rest_cases cursor.rest with
      here | ⟨more, here⟩ | ⟨more, here, other⟩ | ⟨filled, closing, opening⟩
    · simp only [here]
      rfl
    · simp only [here]
      rw [result_lift_bind]
      cases readClosing frame.tag cursor <;> rfl
    · simp only [here]
      rw [(balanced_element fuel cursor).result_bind]
      cases (element fuel cursor).result count <;> rfl
    · simp only
      rfl

theorem result_elements (fuel : Nat) (state : List Element × Cursor) :
    (elements (fuel + 1) state.1 state.2).result 0 =
      elementsTurn (fun cursor => (element fuel cursor).result 0) state >>=
        Sum.elim .ok fun later => (elements fuel later.1 later.2).result 0 := by
  obtain ⟨read, start⟩ := state
  rw [elements, elementsTurn, result_lift_bind]
  simp only
  cases skipTrivia start with
  | error e => rfl
  | ok cursor =>
    rw [ok_bind, ok_bind]
    rcases Progress.rest_cases cursor.rest with
      here | ⟨more, here⟩ | ⟨more, here, other⟩ | ⟨filled, closing, opening⟩
    · simp only [here]
      rfl
    · simp only [here]
      rfl
    · simp only [here]
      rw [(balanced_element fuel cursor).result_bind]
      cases (element fuel cursor).result 0 <;> rfl
    · simp only
      rfl

theorem reads_element_contents (fuel : Nat) :
    (∀ cursor count child later, (element fuel cursor).result count = .ok (child, later) →
      ReadsAtLeast (4 * child.all.length) cursor later) ∧
    ∀ frame cursor count child later, (contents fuel frame cursor).result count = .ok (child, later) →
      ∃ more, child.all.length = frame.close.all.length + more ∧
        ReadsAtLeast (4 * more + 4) cursor later := by
  induction fuel with
  | zero =>
    constructor
    · intro cursor count child later h
      cases h
    · intro frame cursor count child later h
      cases h
  | succ fuel ih =>
    constructor
    · intro cursor count child later h
      rw [result_element] at h
      obtain ⟨⟨opening, behind⟩, opened, h⟩ := ok_of_bind h
      simp only at h
      split at h
      · rename_i complete
        cases h
        exact readsAtLeast_of_complete opened complete
      · obtain ⟨more, total, reads⟩ := ih.2 _ behind (count + 1) child later h
        have start := (readOpening_ok opened).reads
        have alone : (⟨opening.tag, opening.position, opening.attributes, []⟩ : Frame).close.all.length = 1 := rfl
        exact (start.trans reads).weaken (by omega)
    · intro frame cursor count child later h
      have turn := result_contents fuel (frame, cursor) count
      rw [h] at turn
      obtain ⟨outcome, turned, ends⟩ := ok_of_bind turn.symm
      cases contentsTurn_ok turned with
      | comment reads =>
        obtain ⟨more, total, rest⟩ := ih.2 _ _ _ _ _ ends
        exact ⟨more, total, (reads.trans rest).weaken (by omega)⟩
      | closing reads =>
        cases ends
        exact ⟨0, rfl, reads⟩
      | @child inner behind read =>
        obtain ⟨more, total, rest⟩ := ih.2 _ _ _ _ _ ends
        have first := ih.1 _ _ _ _ read
        rw [Frame.length_all_add] at total
        exact ⟨inner.all.length + more, by omega, (first.trans rest).weaken (by omega)⟩
      | text reads =>
        obtain ⟨more, total, rest⟩ := ih.2 _ _ _ _ _ ends
        rw [Frame.length_all_readText] at total
        exact ⟨more, total, (reads.trans rest).weaken (by omega)⟩

theorem reads_element {fuel count : Nat} {cursor later : Cursor} {child : Element}
    (h : (element fuel cursor).result count = .ok (child, later)) :
    ReadsAtLeast (4 * child.all.length) cursor later :=
  (reads_element_contents fuel).1 cursor count child later h

theorem one_le_length_all (element : Element) : 1 ≤ element.all.length := by
  rw [Element.all_eq, List.length_cons]
  omega

theorem contentsTurn_forward {reader : Cursor → Except Error (Element × Cursor)}
    {state later : Frame × Cursor}
    (reads : ∀ child behind, reader state.2 = .ok (child, behind) → ReadsAtLeast 1 state.2 behind)
    (h : contentsTurn reader state = .ok (.inr later)) : ReadsAtLeast 1 state.2 later.2 := by
  obtain ⟨frame, cursor⟩ := state
  cases contentsTurn_ok h with
  | comment comment => exact comment.weaken (by omega)
  | child read => exact reads _ _ read
  | text text => exact text

theorem element_forward {fuel count : Nat} {cursor later : Cursor} {child : Element}
    (h : (element fuel cursor).result count = .ok (child, later)) : ReadsAtLeast 4 cursor later := by
  have size := one_le_length_all child
  exact (reads_element h).weaken (by omega)

/-- Calls that nest as deep as twice the rest of the text is long are enough. -/
theorem stable (fuel : Nat) :
    (∀ cursor count, 2 * cursor.rest.length + 1 ≤ fuel →
      (element (fuel + 1) cursor).result count = (element fuel cursor).result count) ∧
    ∀ frame cursor count, 2 * cursor.rest.length + 2 ≤ fuel →
      (contents (fuel + 1) frame cursor).result count = (contents fuel frame cursor).result count := by
  induction fuel with
  | zero =>
    constructor
    · intro cursor count enough
      omega
    · intro frame cursor count enough
      omega
  | succ fuel ih =>
    constructor
    · intro cursor count enough
      rw [result_element, result_element]
      cases read : readOpening count cursor with
      | error e => rfl
      | ok found =>
        have size := (readOpening_ok read).reads.length_le
        rw [ok_bind, ok_bind, ih.2 _ found.2 (count + 1) (by omega)]
    · intro frame cursor count enough
      have same : contentsTurn (fun cursor => (element (fuel + 1) cursor).result count) (frame, cursor) =
          contentsTurn (fun cursor => (element fuel cursor).result count) (frame, cursor) :=
        contentsTurn_congr (ih.1 cursor count (by omega))
      have longer := result_contents (fuel + 1) (frame, cursor) count
      have shorter := result_contents fuel (frame, cursor) count
      rw [longer, shorter, same]
      rcases turned : contentsTurn (fun cursor => (element fuel cursor).result count) (frame, cursor) with
        e | ended | later
      · rfl
      · rfl
      · have size := (contentsTurn_forward
          (fun child behind read => (element_forward read).weaken (by omega)) turned).length_le
        simp only at size
        exact ih.2 later.1 later.2 count (by omega)

theorem element_of_enough {fuel : Nat} {cursor : Cursor} (enough : 2 * cursor.rest.length + 1 ≤ fuel)
    (count : Nat) :
    (element fuel cursor).result count = (element (2 * cursor.rest.length + 1) cursor).result count := by
  induction fuel, enough using Nat.le_induction with
  | base => rfl
  | succ fuel enough ih => rw [(stable fuel).1 cursor count enough, ih]

theorem contents_of_enough {fuel : Nat} {cursor : Cursor} (enough : 2 * cursor.rest.length + 2 ≤ fuel)
    (frame : Frame) (count : Nat) :
    (contents fuel frame cursor).result count =
      (contents (2 * cursor.rest.length + 2) frame cursor).result count := by
  induction fuel, enough using Nat.le_induction with
  | base => rfl
  | succ fuel enough ih => rw [(stable fuel).2 frame cursor count enough, ih]

end Descent

def readElement (depth : Nat) (cursor : Cursor) : Except Error (Element × Cursor) :=
  (Descent.element (2 * cursor.rest.length + 1) cursor).result depth

def readContents (depth : Nat) (state : Frame × Cursor) : Except Error (Element × Cursor) :=
  (Descent.contents (2 * state.2.rest.length + 2) state.1 state.2).result depth

def readElements (state : List Element × Cursor) : Except Error (List Element) :=
  (Descent.elements (2 * state.2.rest.length + 2) state.1 state.2).result 0

def contentsLoop (depth : Nat) : Loop (Frame × Cursor) (Element × Cursor) where
  turn := contentsTurn (readElement depth)
  cursor := Prod.snd

def elementsLoop : Loop (List Element × Cursor) (List Element) where
  turn := elementsTurn (readElement 0)
  cursor := Prod.snd

theorem readElement_eq (depth : Nat) (cursor : Cursor) :
    readElement depth cursor =
      readOpening depth cursor >>= fun read =>
        if read.1.complete then .ok ((⟨read.1.tag, read.1.position, read.1.attributes, []⟩ : Frame).close, read.2)
        else readContents (depth + 1) (⟨read.1.tag, read.1.position, read.1.attributes, []⟩, read.2) := by
  rw [readElement, Descent.result_element]
  cases read : readOpening depth cursor with
  | error e => rfl
  | ok found =>
    have size := (readOpening_ok read).reads.length_le
    rw [ok_bind, ok_bind, Descent.contents_of_enough (by omega)]
    rfl

theorem readElement_forward {depth : Nat} {cursor later : Cursor} {child : Element}
    (h : readElement depth cursor = .ok (child, later)) : ReadsAtLeast 4 cursor later :=
  Descent.element_forward h

theorem forward_contentsLoop (depth : Nat) : (contentsLoop depth).Forward := by
  intro state later goesOn
  apply Descent.contentsTurn_forward _ goesOn
  intro child behind read
  exact (readElement_forward read).weaken (by omega)

theorem forward_elementsLoop : elementsLoop.Forward := by
  intro state later goesOn
  obtain ⟨cursor, next, gap, read, _⟩ := elementsTurn_ok goesOn
  exact (gap.trans (readElement_forward read)).weaken (by omega)

theorem computes_contentsLoop (depth : Nat) : (contentsLoop depth).Computes (readContents depth) := by
  intro state
  have same : contentsTurn (fun cursor =>
        (Descent.element (2 * state.2.rest.length + 1) cursor).result depth) state =
      contentsTurn (readElement depth) state :=
    contentsTurn_congr rfl
  rw [readContents, Descent.result_contents, same]
  rcases turned : contentsTurn (readElement depth) state with e | ended | later
  · simp only [contentsLoop, turned]
    rfl
  · simp only [contentsLoop, turned]
    rfl
  · have size := (forward_contentsLoop depth state later turned).length_le
    simp only [contentsLoop] at size
    simp only [contentsLoop, turned, ok_bind, Sum.elim_inr]
    exact Descent.contents_of_enough (by omega) later.1 depth

/-- The descent to the end of a document is the reader with a stack, whatever the bound on its
calls. -/
theorem elements_eq_run {fuel : Nat} {state : List Element × Cursor}
    (enough : 2 * state.2.rest.length + 2 ≤ fuel) :
    (Descent.elements fuel state.1 state.2).result 0 = Progress.run ⟨state.2, [], state.1⟩ :=
  (Progress.run_descent state.1 enough).symm

theorem computes_elementsLoop : elementsLoop.Computes readElements := by
  intro state
  have same : elementsTurn (fun cursor =>
        (Descent.element (2 * state.2.rest.length + 1) cursor).result 0) state =
      elementsTurn (readElement 0) state := by
    apply elementsTurn_congr
    intro cursor trivia
    have size := (skipTriviaWithin_ok trivia).length_le
    exact Descent.element_of_enough (by omega) 0
  rw [readElements, Descent.result_elements, same]
  rcases turned : elementsTurn (readElement 0) state with e | ended | later
  · simp only [elementsLoop, turned]
    rfl
  · simp only [elementsLoop, turned]
    rfl
  · have size := (forward_elementsLoop state later turned).length_le
    simp only [elementsLoop] at size
    simp only [elementsLoop, turned, ok_bind, Sum.elim_inr]
    rw [elements_eq_run (by omega), readElements, elements_eq_run (Nat.le_refl _)]

/-- Every four characters that are left make room for one more element. -/
theorem four_mul_length_le {state : List Element × Cursor} {elements : List Element}
    (h : readElements state = .ok elements) :
    4 * (elements.flatMap Element.all).length ≤
      4 * (state.1.reverse.flatMap Element.all).length + state.2.rest.length := by
  induction state using forward_elementsLoop.wellFounded.induction with
  | h state ih =>
    rw [computes_elementsLoop state] at h
    obtain ⟨outcome, turned, h⟩ := ok_of_bind h
    cases outcome with
    | inl ended =>
      cases h
      rw [elementsTurn_end turned]
      omega
    | inr later =>
      have bound := ih later turned h
      obtain ⟨cursor, next, gap, read, front⟩ := elementsTurn_ok turned
      have size := (gap.trans (Descent.reads_element read)).length_le
      rw [front, List.reverse_cons, List.flatMap_append, List.length_append, List.flatMap_singleton] at bound
      omega

theorem parse_eq (source : String) :
    Document.parse source =
      readHead source.toList >>= fun head =>
        readElements ([], head.2) >>= fun elements => .ok ⟨head.1, elements⟩ := by
  rw [Document.parse, readDocument_eq]
  cases readHead source.toList with
  | error e => rfl
  | ok head =>
    have elements : readElements ([], head.2) = Progress.run ⟨head.2, [], []⟩ :=
      elements_eq_run (Nat.le_refl _)
    rw [ok_bind, ok_bind, elements]
    rfl

theorem four_mul_length_all_le {source : String} {document : Document}
    (parsed : Document.parse source = .ok document) : 4 * document.all.length ≤ source.utf8ByteSize := by
  rw [parse_eq] at parsed
  obtain ⟨⟨script, later⟩, head, parsed⟩ := ok_of_bind parsed
  obtain ⟨elements, read, done⟩ := ok_of_bind parsed
  cases done
  have room := four_mul_length_le read
  have start := (readHead_reads head).1.length_le
  have bytes := Text.length_le_utf8Len source.toList
  rw [String.utf8Len_toList] at bytes
  simp only [List.reverse_nil, List.flatMap_nil, List.length_nil, Cursor.ofText] at room start
  change 4 * (elements.flatMap Element.all).length ≤ _
  omega

/-- From every boundary between the characters of a source, a cursor moves to such boundaries only.
An element that is read takes four bytes or more. Each turn of a loop of the reader that goes on
takes one or more, so each loop ends, and the elements inside elements are read by calls that end as
well. Reading a document is made of these loops and calls, and the document has at most a quarter as
many elements as its source has bytes. -/
theorem reader_advances (source : String) :
    (∀ place : String.Pos.Raw, place.IsValid source ↔
      ∃ cursor : Cursor, cursor.Within source ∧ cursor.offset source = place.byteIdx) ∧
    (∀ cursor : Cursor, cursor.Within source →
      (∀ count, (cursor.skip count).Within source) ∧ (∀ keep, (cursor.skipWhile keep).Within source) ∧
      ∀ depth element later, readElement depth cursor = .ok (element, later) →
        cursor.Advances source 4 later) ∧
    triviaLoop.Proceeds source skipTrivia ∧
    attributesLoop.Proceeds source readAttributesAfter ∧
    (∀ depth, (contentsLoop depth).Proceeds source (readContents depth)) ∧
    elementsLoop.Proceeds source readElements ∧
    (∀ depth cursor, readElement depth cursor =
      readOpening depth cursor >>= fun read =>
        if read.1.complete then .ok ((⟨read.1.tag, read.1.position, read.1.attributes, []⟩ : Frame).close, read.2)
        else readContents (depth + 1) (⟨read.1.tag, read.1.position, read.1.attributes, []⟩, read.2)) ∧
    (Document.parse source =
      readHead source.toList >>= fun head =>
        readElements ([], head.2) >>= fun elements => .ok ⟨head.1, elements⟩) ∧
    (∀ head, readHead source.toList = .ok head → head.2.Within source) ∧
    ∀ document, Document.parse source = .ok document → 4 * document.all.length ≤ source.utf8ByteSize := by
  refine ⟨fun place => Cursor.isValid_iff_offset, ?_, forward_triviaLoop.proceeds computes_triviaLoop source,
    forward_attributesLoop.proceeds computes_attributesLoop source,
    fun depth => (forward_contentsLoop depth).proceeds (computes_contentsLoop depth) source,
    forward_elementsLoop.proceeds computes_elementsLoop source, readElement_eq, parse_eq source, ?_,
    fun document => four_mul_length_all_le⟩
  · intro cursor within
    refine ⟨?_, ?_, ?_⟩
    · intro count
      exact (((Cursor.reads_skip cursor count).atLeast (Nat.zero_le _)).advances within).1
    · intro keep
      exact (((Cursor.reads_skipWhile cursor keep).atLeast (Nat.zero_le _)).advances within).1
    · intro depth element later read
      exact (readElement_forward read).advances within
  · intro head read
    exact ((readHead_reads read).1.advances (Cursor.within_ofText source)).1

/-- Two elements of four bytes each, and none to spare. -/
theorem reader_advances_short :
    let source := "<a/><br>"
    source.utf8ByteSize = 8 ∧ ∃ document, Document.parse source = .ok document ∧
      document.all.length = 2 ∧ 4 * document.all.length ≤ source.utf8ByteSize ∧
      ∃ element later, readElement 0 (.ofText source.toList) = .ok (element, later) ∧
        (Cursor.ofText source.toList).Advances source 4 later := by
  intro source
  obtain ⟨document, parsed, two⟩ := ok_of_toOption_map
    (show (Document.parse source).toOption.map (fun document => document.all.length) = some 2 by
      decide +kernel)
  obtain ⟨⟨element, later⟩, read, _⟩ := ok_of_toOption_map
    (show (readElement 0 (.ofText source.toList)).toOption.map (fun read => read.1.tag) = some "a" by
      decide +kernel)
  obtain ⟨_, moves, _, _, _, _, _, _, _, bound⟩ := reader_advances source
  exact ⟨rfl, document, parsed, two, bound document parsed, element, later, read,
    (moves _ (Cursor.within_ofText source)).2.2 0 element later read⟩

end UiMarkup.Reader
