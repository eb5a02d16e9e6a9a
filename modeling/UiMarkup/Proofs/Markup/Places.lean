import UiMarkup.Proofs.Markup.Soundness
import UiMarkup.Proofs.Text.Lines

namespace UiMarkup

namespace Cursor

variable {cursor later : Cursor} {place : Position} {α β : Type}

def Holds (cursor : Cursor) (place : Position) : Prop :=
  ∃ text later, Reads cursor text later ∧ later.position = place

theorem holds_position (cursor : Cursor) : cursor.Holds cursor.position :=
  ⟨[], cursor, Reads.refl cursor, rfl⟩

theorem Holds.behind {count : Nat} (h : later.Holds place) (reads : ReadsAtLeast count cursor later) :
    cursor.Holds place := by
  obtain ⟨text, last, more, same⟩ := h
  obtain ⟨before, _, start⟩ := reads
  exact ⟨before ++ text, last, start.trans more, same⟩

def OpensAt (cursor : Cursor) (tag : String) (place : Position) : Prop :=
  ∃ text later more, Reads cursor text later ∧ later.position = place ∧
    later.rest = '<' :: (tag.toList ++ more)

theorem OpensAt.holds {tag : String} (h : cursor.OpensAt tag place) : cursor.Holds place := by
  obtain ⟨text, later, more, reads, same, _⟩ := h
  exact ⟨text, later, reads, same⟩

theorem OpensAt.behind {tag : String} {count : Nat} (h : later.OpensAt tag place)
    (reads : ReadsAtLeast count cursor later) : cursor.OpensAt tag place := by
  obtain ⟨text, last, more, within, same, starts⟩ := h
  obtain ⟨before, _, start⟩ := reads
  exact ⟨before ++ text, last, more, start.trans within, same, starts⟩

def Locates (cursor : Cursor) (result : Except Error α) : Prop :=
  ∀ place fault, result = .error (.markup place fault) → cursor.Holds place

theorem locates_ok (cursor : Cursor) (value : α) : cursor.Locates (.ok value) := by
  intro place fault same
  cases same

theorem locates_tag (cursor : Cursor) (name : String) (fault : TagFault) :
    cursor.Locates (.error (.tag name fault) : Except Error α) := by
  intro place other same
  cases same

theorem Locates.behind {count : Nat} {result : Except Error α} (h : later.Locates result)
    (reads : ReadsAtLeast count cursor later) : cursor.Locates result := by
  intro place fault same
  exact (h place fault same).behind reads

theorem Locates.bind {first : Except Error α} {next : α → Except Error β} (h : cursor.Locates first)
    (k : ∀ value, first = .ok value → cursor.Locates (next value)) :
    cursor.Locates (first >>= next) := by
  intro place fault same
  cases found : first with
  | error e =>
    rw [found] at same h
    cases same
    exact h place fault rfl
  | ok value =>
    rw [found] at same
    exact k value found place fault same

end Cursor

namespace Reader

open Cursor (Reads ReadsAtLeast locates_ok locates_tag)

theorem locates_failAt {α : Type} (cursor : Cursor) (fault : MarkupFault) :
    cursor.Locates (failAt cursor fault : Except Error α) := by
  intro place other same
  cases same
  exact cursor.holds_position

section Tags

variable (cursor : Cursor)

theorem locates_expect (wanted : Char) : cursor.Locates (expect wanted cursor) := by
  unfold expect
  split
  · exact locates_failAt cursor _
  · split
    · exact locates_ok cursor _
    · exact locates_failAt cursor _

theorem locates_readName : cursor.Locates (readName cursor) := by
  unfold readName
  split
  · exact locates_failAt cursor _
  · split
    · exact locates_ok cursor _
    · exact locates_failAt cursor _

theorem locates_skipComment : cursor.Locates (skipComment cursor) := by
  unfold skipComment
  split
  · exact locates_ok cursor _
  · exact locates_failAt cursor _

theorem locates_skipTriviaWithin (bound : List Char) (cursor : Cursor) :
    cursor.Locates (skipTriviaWithin bound cursor) := by
  induction bound generalizing cursor with
  | nil => exact locates_ok cursor _
  | cons b bound ih =>
    have gap := Cursor.readsAtLeast_skipBlanks cursor
    unfold skipTriviaWithin
    split
    · apply ((locates_skipComment cursor.skipBlanks).behind gap).bind
      intro later comment
      exact (ih later).behind (gap.trans (skipComment_ok comment))
    · exact locates_ok cursor _

theorem locates_readValue : cursor.Locates (readValue cursor) := by
  unfold readValue
  split
  · exact locates_failAt cursor _
  · split
    · split
      · exact locates_ok cursor _
      · exact locates_failAt cursor _
    · simp only
      split
      · exact locates_failAt cursor _
      · exact locates_ok cursor _

theorem locates_readOptionalValue : cursor.Locates (readOptionalValue cursor) := by
  have gap := Cursor.readsAtLeast_skipBlanks cursor
  unfold readOptionalValue
  split
  · rename_i more here
    have sign : ReadsAtLeast 1 cursor.skipBlanks (cursor.skipBlanks.skip 1) :=
      Cursor.readsAtLeast_skip (by simp [here])
    have inner := Cursor.readsAtLeast_skipBlanks (cursor.skipBlanks.skip 1)
    apply ((locates_readValue _).behind (gap.trans (sign.trans inner))).bind
    intro value read
    exact locates_ok cursor _
  · exact locates_ok cursor _

theorem locates_readAttribute : cursor.Locates (readAttribute cursor) := by
  have name : ReadsAtLeast 0 cursor (cursor.skipWhile isAttributePart) :=
    (Cursor.reads_skipWhile cursor isAttributePart).atLeast (Nat.zero_le _)
  have value := (locates_readOptionalValue (cursor.skipWhile isAttributePart)).behind name
  unfold readAttribute
  split
  · exact locates_failAt cursor _
  · exact locates_failAt cursor _
  · exact value.bind fun _ _ => locates_ok cursor _
  · exact value.bind fun _ _ => locates_ok cursor _

theorem locates_readAttributesWithin (bound : List Char) (cursor : Cursor) :
    cursor.Locates (readAttributesWithin bound cursor) := by
  induction bound generalizing cursor with
  | nil => exact (locates_failAt cursor.skipBlanks _).behind (Cursor.readsAtLeast_skipBlanks cursor)
  | cons b bound ih =>
    have gap := Cursor.readsAtLeast_skipBlanks cursor
    unfold readAttributesWithin
    split
    · exact (locates_failAt cursor.skipBlanks _).behind gap
    · exact locates_ok cursor _
    · exact locates_ok cursor _
    · apply ((locates_readAttribute cursor.skipBlanks).behind gap).bind
      intro first read
      obtain ⟨_, reads⟩ := readAttribute_ok read
      apply ((ih first.2).behind (gap.trans reads)).bind
      intro others rest
      exact locates_ok cursor _

theorem locates_readOpening (depth : Nat) : cursor.Locates (readOpening depth cursor) := by
  unfold readOpening
  apply (locates_expect cursor '<').bind
  intro opened angle
  have start : ReadsAtLeast 1 cursor opened := (expect_ok angle).atLeast (Nat.le_refl 1)
  apply ((locates_readName opened).behind start).bind
  intro tag name
  have named : ReadsAtLeast 0 opened tag.2 := (readName_ok name).2.atLeast (Nat.zero_le _)
  simp only
  split
  · exact locates_tag cursor _ _
  · split
    · exact locates_failAt cursor _
    · have attributes : tag.2.Locates (readAttributes tag.2) := locates_readAttributesWithin _ _
      apply (attributes.behind (start.trans named)).bind
      intro given read
      obtain ⟨_, _, reads⟩ := readAttributes_ok read
      split
      · exact locates_ok cursor _
      · apply ((locates_expect given.2 '>').behind ((start.trans named).trans reads)).bind
        intro later close
        exact locates_ok cursor _

end Tags

end Reader

def Element.place (element : Element) : String × Position :=
  (element.tag, element.position)

theorem Content.all_append (left right : List (Content Element)) :
    Content.all (left ++ right) = Content.all left ++ Content.all right := by
  induction left with
  | nil => rfl
  | cons content left ih => cases content <;> simp [Content.all, ih]

namespace Reader

open Cursor (Reads ReadsAtLeast locates_ok locates_tag)

def Frame.places (frame : Frame) : List (String × Position) :=
  (frame.tag, frame.position) :: (Content.all frame.children.reverse).map Element.place

theorem Frame.places_close (frame : Frame) : frame.close.all.map Element.place = frame.places := by
  rw [Element.all_eq]
  rfl

theorem Frame.places_add_text (frame : Frame) (text : String) :
    (frame.add (.text text)).places = frame.places := by
  simp [Frame.places, Frame.add, Content.all_append, Content.all]

theorem Frame.places_add_element (frame : Frame) (element : Element) :
    (frame.add (.element element)).places = frame.places ++ element.all.map Element.place := by
  simp [Frame.places, Frame.add, Content.all_append, Content.all]

namespace Progress

variable {progress next : Progress} {origin : Cursor}

def places (progress : Progress) : List (String × Position) :=
  (progress.elements.reverse.flatMap Element.all).map Element.place ++
    progress.frames.reverse.flatMap Frame.places

theorem places_moveTo (later : Cursor) : (progress.moveTo later).places = progress.places := rfl

theorem places_add (element : Element) :
    (progress.add element).places = progress.places ++ element.all.map Element.place := by
  obtain ⟨cursor, frames, elements⟩ := progress
  cases frames with
  | nil => simp [add, places]
  | cons frame outer => simp [add, places, Frame.places_add_element]

theorem places_opened (opening : Opening) (later : Cursor) :
    (progress.opened opening later).places = progress.places ++ [(opening.tag, opening.position)] := by
  unfold opened
  split
  · rw [places_add, places_moveTo, Element.all_eq]
    rfl
  · simp [places, Frame.places, Content.all]

theorem places_closed {frame : Frame} {outer : List Frame} (inside : progress.frames = frame :: outer)
    (later : Cursor) : (progress.closed frame outer later).places = progress.places := by
  rw [closed, places_add, Frame.places_close]
  simp [places, inside]

theorem places_addText {frame : Frame} {outer : List Frame} (inside : progress.frames = frame :: outer) :
    (progress.addText frame outer).places = progress.places := by
  unfold addText
  simp only
  split
  · rfl
  · simp [places, inside, Frame.places_add_text]

theorem cursor_add (element : Element) : (progress.add element).cursor = progress.cursor := by
  unfold add
  split <;> rfl

theorem cursor_opened (opening : Opening) (later : Cursor) :
    (progress.opened opening later).cursor = later := by
  unfold opened
  split
  · rw [cursor_add]
    rfl
  · rfl

/-- What was read of `origin` so far: the tags that were opened are at their places, in order. -/
structure Placed (origin : Cursor) (progress : Progress) : Prop where
  reads : ReadsAtLeast 0 origin progress.cursor
  opens : ∀ entry ∈ progress.places, origin.OpensAt entry.1 entry.2
  ordered : progress.places.Pairwise fun entry other => entry.2.Before other.2
  behind : ∀ entry ∈ progress.places, entry.2.Before progress.cursor.position

theorem placed_start (cursor : Cursor) : Placed cursor ⟨cursor, [], []⟩ :=
  ⟨ReadsAtLeast.refl cursor, by simp [places], by simp [places], by simp [places]⟩

theorem Placed.move {count : Nat} (placed : Placed origin progress) (same : next.places = progress.places)
    (reads : ReadsAtLeast count progress.cursor next.cursor) : Placed origin next := by
  have whole : ReadsAtLeast 0 origin next.cursor := (placed.reads.trans reads).weaken (Nat.zero_le _)
  obtain ⟨text, _, _, position⟩ := reads
  have behind : ∀ entry ∈ next.places, entry.2.Before next.cursor.position := by
    intro entry member
    rw [same] at member
    rw [position]
    exact (placed.behind entry member).advance text
  exact ⟨whole, by rw [same]; exact placed.opens, by rw [same]; exact placed.ordered, behind⟩

theorem Placed.opened {start later : Cursor} {opening : Opening} (placed : Placed origin progress)
    (gap : ReadsAtLeast 0 progress.cursor start)
    (opens : Opens progress.frames.length start opening later) :
    Placed origin (progress.opened opening later) := by
  have reached := placed.reads.trans gap
  have whole := reached.trans opens.reads
  obtain ⟨between, _, _, skipped⟩ := gap
  obtain ⟨read, _, split⟩ := reached
  obtain ⟨more, starts⟩ := opens.starts
  obtain ⟨text, size, _, position⟩ := opens.reads
  have filled : text ≠ [] := by
    rintro rfl
    contradiction
  have here : origin.OpensAt opening.tag opening.position :=
    ⟨read, start, more, split, opens.place.symm, starts⟩
  have earlier : ∀ entry ∈ progress.places, entry.2.Before opening.position := by
    intro entry member
    rw [opens.place, skipped]
    exact (placed.behind entry member).advance between
  have passed : opening.position.Before later.position := by
    rw [opens.place, position]
    exact start.position.before_advance filled
  constructor
  · rw [cursor_opened]
    exact whole.weaken (Nat.zero_le _)
  · rw [places_opened, List.forall_mem_append, List.forall_mem_singleton]
    exact ⟨placed.opens, here⟩
  · rw [places_opened, List.pairwise_append]
    refine ⟨placed.ordered, List.pairwise_singleton _ _, ?_⟩
    intro entry member
    rw [List.forall_mem_singleton]
    exact earlier entry member
  · rw [places_opened, cursor_opened, List.forall_mem_append, List.forall_mem_singleton]
    exact ⟨fun entry member => (earlier entry member).trans passed, passed⟩

theorem Placed.step (placed : Placed origin progress) (h : Steps progress next) :
    Placed origin next := by
  cases h with
  | opening gap opens => exact placed.opened gap opens
  | closing inside reads =>
    apply placed.move (places_closed inside _)
    rw [closed, cursor_add]
    exact reads
  | text inside reads => exact placed.move (places_addText inside) reads
  | comment inside reads => exact placed.move (places_moveTo _) reads

theorem Placed.holds_frame {frame : Frame} {outer : List Frame} (placed : Placed origin progress)
    (inside : progress.frames = frame :: outer) : origin.Holds frame.position := by
  have member : (frame.tag, frame.position) ∈ progress.places := by
    simp [places, inside, Frame.places]
  exact (placed.opens _ member).holds

theorem Placed.locates_unclosed {α : Type} {frame : Frame} {outer : List Frame}
    (placed : Placed origin progress) (inside : progress.frames = frame :: outer) :
    origin.Locates (.error (.markup frame.position (.unclosed frame.tag)) : Except Error α) := by
  intro place fault same
  cases same
  exact placed.holds_frame inside

theorem locates_openElement (progress : Progress) (start : Cursor) :
    start.Locates (progress.openElement start) := by
  unfold openElement
  apply (locates_readOpening start _).bind
  intro opening read
  simp only
  split
  · exact locates_ok start _
  · exact locates_ok start _

theorem locates_closeElement (frame : Frame) (outer : List Frame)
    (start : 2 ≤ progress.cursor.rest.length) :
    progress.cursor.Locates (progress.closeElement frame outer) := by
  have slash := Cursor.readsAtLeast_skip start
  unfold closeElement
  apply ((locates_readName _).behind slash).bind
  intro closing name
  have named : ReadsAtLeast 0 (progress.cursor.skip 2) closing.2 :=
    (readName_ok name).2.atLeast (Nat.zero_le _)
  have gap := Cursor.readsAtLeast_skipBlanks closing.2
  apply ((locates_expect _ '>').behind ((slash.trans named).trans gap)).bind
  intro later angle
  split
  · exact locates_ok _ _
  · exact locates_failAt _ _

theorem locates_some {α : Type} {result : Except Error α} (h : origin.Locates result) :
    origin.Locates (some <$> result) := by
  intro place fault same
  cases result with
  | error e =>
    cases same
    exact h place fault rfl
  | ok value => cases same

theorem Placed.locates_step (placed : Placed origin progress) : origin.Locates progress.step := by
  have reached := placed.reads
  unfold Progress.step
  split
  · have trivia : progress.cursor.Locates (skipTrivia progress.cursor) := locates_skipTriviaWithin _ _
    apply (trivia.behind reached).bind
    intro start skipped
    have gap := reached.trans (skipTriviaWithin_ok skipped)
    split
    · exact locates_ok origin _
    · exact (locates_failAt start _).behind gap
    · exact (locates_some (locates_openElement progress start)).behind gap
    · exact (locates_failAt start _).behind gap
  · rename_i frame outer inside
    split
    · apply ((locates_skipComment progress.cursor).behind reached).bind
      intro later comment
      exact locates_ok origin _
    · split
      · exact placed.locates_unclosed inside
      · rename_i more here
        have start : 2 ≤ progress.cursor.rest.length := by simp [here]
        exact (locates_some (locates_closeElement frame outer start)).behind reached
      · exact (locates_some (locates_openElement progress progress.cursor)).behind reached
      · exact locates_ok origin _

theorem Placed.locates_finish (placed : Placed origin progress) : origin.Locates progress.finish := by
  unfold finish
  split
  · exact locates_ok origin _
  · rename_i frame outer inside
    exact placed.locates_unclosed inside

theorem locates_run (cursor : Cursor) : cursor.Locates (run ⟨cursor, [], []⟩) := by
  intro place fault failed
  have kept (before after : Progress) (placed : Placed cursor before) (step : Steps before after) :
      Placed cursor after := placed.step step
  obtain ⟨last, placed, stopped⟩ := failure_of_run kept (placed_start cursor) failed
  rcases stopped with stopped | stopped
  · exact placed.locates_step place fault stopped
  · exact placed.locates_finish place fault stopped

theorem placed_of_run {cursor : Cursor} {elements : List Element}
    (h : run ⟨cursor, [], []⟩ = .ok elements) :
    (∀ element ∈ elements.flatMap Element.all, cursor.OpensAt element.tag element.position) ∧
      (elements.flatMap Element.all).Pairwise fun element other =>
        element.position.Before other.position := by
  have kept (before after : Progress) (placed : Placed cursor before) (step : Steps before after) :
      Placed cursor after := placed.step step
  obtain ⟨last, placed, ends⟩ := finish_of_run kept (placed_start cursor) h
  unfold finish at ends
  split at ends
  · rename_i outside
    cases ends
    have whole : last.places = (last.elements.reverse.flatMap Element.all).map Element.place := by
      simp [places, outside]
    have opens := placed.opens
    have ordered := placed.ordered
    rw [whole] at opens ordered
    rw [List.pairwise_map] at ordered
    refine ⟨?_, ordered⟩
    intro element member
    exact opens element.place (List.mem_map_of_mem member)
  · cases ends

end Progress

def readHead (text : List Char) : Except Error (Option ScriptBlock × Cursor) := do
  let cursor ← skipTrivia (.ofText text)
  if atScript cursor then
    let (script, later) ← readScript cursor
    return (some script, later)
  else
    return (none, cursor)

theorem readDocument_eq (text : List Char) :
    readDocument text = do
      let (script, later) ← readHead text
      let elements ← Progress.run ⟨later, [], []⟩
      return ⟨script, elements⟩ := by
  unfold readDocument readHead
  cases skipTrivia (.ofText text) with
  | error e => rfl
  | ok cursor =>
    simp only [Bind.bind, Except.bind]
    split
    · cases readScript cursor <;> rfl
    · rfl

theorem readScript_reads {cursor later : Cursor} {script : ScriptBlock}
    (h : readScript cursor = .ok (script, later)) :
    ReadsAtLeast 0 cursor later ∧
      ∃ inside after, ReadsAtLeast 0 cursor inside ∧ inside.rest = script.content.toList ++ after ∧
        script.line = inside.position.line := by
  unfold readScript at h
  obtain ⟨opened, angle, h⟩ := ok_of_bind h
  obtain ⟨⟨tag, named⟩, name, h⟩ := ok_of_bind h
  obtain ⟨⟨given, last⟩, attributes, h⟩ := ok_of_bind h
  obtain ⟨inside, close, h⟩ := ok_of_bind h
  have start := ((expect_ok angle).trans (readName_ok name).2).atLeast (Nat.zero_le _)
  obtain ⟨_, _, written⟩ := readAttributes_ok attributes
  have opening := (start.trans written).trans ((expect_ok close).atLeast (Nat.zero_le _))
  simp only at h
  split at h
  · simp [throw, throwThe, MonadExceptOf.throw, Bind.bind, Except.bind] at h
  simp only [Pure.pure, Except.pure, Bind.bind, Except.bind] at h
  split at h
  · simp [failAt] at h
  · rename_i content behind found
    obtain ⟨finish, angle, done⟩ := ok_of_bind h
    cases done
    obtain ⟨⟨closing, split, _⟩, _⟩ := Text.cutAroundLetters?_eq_some found
    have block := (Cursor.reads_skip inside (content.length + "</script".length)).atLeast (Nat.zero_le _)
    have gap := Cursor.readsAtLeast_skipBlanks (inside.skip (content.length + "</script".length))
    have ending := (expect_ok angle).atLeast (Nat.zero_le _)
    refine ⟨opening.trans ((block.trans gap).trans ending), inside, closing ++ behind, opening, ?_, rfl⟩
    rw [split, String.toList_ofList, List.append_assoc]

theorem locates_readScript (cursor : Cursor) : cursor.Locates (readScript cursor) := by
  unfold readScript
  apply (locates_expect cursor '<').bind
  intro opened angle
  have start : ReadsAtLeast 1 cursor opened := (expect_ok angle).atLeast (Nat.le_refl 1)
  apply ((locates_readName opened).behind start).bind
  intro tag name
  have named := start.trans ((readName_ok name).2.atLeast (Nat.zero_le _))
  have given : tag.2.Locates (readAttributes tag.2) := locates_readAttributesWithin _ _
  apply (given.behind named).bind
  intro attributes read
  obtain ⟨_, _, reads⟩ := readAttributes_ok read
  apply ((locates_expect attributes.2 '>').behind (named.trans reads)).bind
  intro inside close
  have opening := (named.trans reads).trans ((expect_ok close).atLeast (Nat.zero_le _))
  simp only
  split
  · exact locates_tag cursor _ _
  · simp only [Pure.pure, Except.pure, Bind.bind, Except.bind]
    split
    · exact locates_failAt cursor _
    · rename_i content behind found
      have block := (Cursor.reads_skip inside (content.length + "</script".length)).atLeast (Nat.zero_le _)
      have gap := Cursor.readsAtLeast_skipBlanks (inside.skip (content.length + "</script".length))
      apply ((locates_expect _ '>').behind (opening.trans (block.trans gap))).bind
      intro later angle
      exact locates_ok cursor _

theorem readHead_reads {text : List Char} {script : Option ScriptBlock} {later : Cursor}
    (h : readHead text = .ok (script, later)) :
    ReadsAtLeast 0 (.ofText text) later ∧
      ∀ block ∈ script, ∃ before after, text = before ++ (block.content.toList ++ after) ∧
        block.line = (Position.start.advance before).line := by
  unfold readHead at h
  obtain ⟨cursor, skipped, h⟩ := ok_of_bind h
  have trivia := skipTriviaWithin_ok skipped
  split at h
  · obtain ⟨⟨block, behind⟩, read, done⟩ := ok_of_bind h
    cases done
    obtain ⟨reads, inside, after, opening, rest, line⟩ := readScript_reads read
    refine ⟨trivia.trans reads, ?_⟩
    intro other same
    cases same
    obtain ⟨before, _, split, position⟩ := trivia.trans opening
    refine ⟨before, after, ?_, ?_⟩
    · rw [← rest]
      exact split
    · rw [line, position]
      rfl
  · cases h
    exact ⟨trivia, by simp⟩

theorem locates_readHead (text : List Char) : (Cursor.ofText text).Locates (readHead text) := by
  have trivia : (Cursor.ofText text).Locates (skipTrivia (.ofText text)) := locates_skipTriviaWithin _ _
  unfold readHead
  apply trivia.bind
  intro cursor skipped
  split
  · apply ((locates_readScript cursor).behind (skipTriviaWithin_ok skipped)).bind
    intro block read
    exact locates_ok _ _
  · exact locates_ok _ _

theorem locates_readDocument (text : List Char) : (Cursor.ofText text).Locates (readDocument text) := by
  rw [readDocument_eq]
  apply (locates_readHead text).bind
  intro head read
  apply ((Progress.locates_run head.2).behind (readHead_reads read).1).bind
  intro elements run
  exact locates_ok _ _

end Reader

namespace Cursor

variable {text : List Char} {place : Position}

/-- A place in a text is in one of its lines, at a character or behind the last one. -/
theorem Holds.exists_line (h : (ofText text).Holds place) :
    1 ≤ place.line ∧ 1 ≤ place.column ∧
      ∃ line, (Text.lines text)[place.line - 1]? = some line ∧ place.column ≤ line.length + 1 := by
  obtain ⟨before, later, ⟨split, position⟩, rfl⟩ := h
  have whole : text = before ++ later.rest := split
  have place : later.position = Position.start.advance before := position
  obtain ⟨front, found, column⟩ := Position.exists_line before later.rest
  rw [← whole, ← place] at found
  rw [← place] at column
  have number := Position.line_start_advance before
  rw [← place] at number
  refine ⟨number, by omega, _, found, ?_⟩
  rw [column, List.length_append]
  omega

theorem OpensAt.exists_line {tag : String} (isName : IsTagName tag.toList)
    (h : (ofText text).OpensAt tag place) :
    ∃ line, (Text.lines text)[place.line - 1]? = some line ∧
      '<' :: tag.toList <+: line.drop (place.column - 1) := by
  obtain ⟨before, later, more, ⟨split, position⟩, rfl, starts⟩ := h
  have whole : text = before ++ ('<' :: tag.toList ++ more) := by
    rw [List.cons_append, ← starts]
    exact split
  have place : later.position = Position.start.advance before := position
  obtain ⟨front, found, column⟩ := Position.exists_line before ('<' :: tag.toList ++ more)
  have inLine : '\n' ∉ '<' :: tag.toList := by
    obtain ⟨c, rest, letters, start, parts⟩ := isName
    have newline : Reader.isNamePart '\n' = false := Reader.isNamePart_of_isBlank (by decide)
    have inside : ∀ d ∈ tag.toList, Reader.isNamePart d = true := by
      rw [letters, List.forall_mem_cons]
      exact ⟨Reader.isNamePart_of_isNameStart start, parts⟩
    rw [List.mem_cons, not_or]
    refine ⟨by decide, ?_⟩
    intro member
    rw [inside _ member] at newline
    cases newline
  rw [← whole, ← place, Text.firstLine_append inLine] at found
  rw [← place] at column
  refine ⟨_, found, ?_⟩
  rw [column, Nat.add_sub_cancel, List.drop_left]
  exact List.prefix_append _ _

end Cursor

/-- Each element of a document that is read, however deep, is written where its place says: in its
line, behind as many characters as its column says, stands its opening tag. The places of all
elements are in the order of their opening tags. If the markup is wrong, the error is told in a line
that exists, at a character of it or right behind the last one. -/
theorem Document.places_of_parse (source : String) :
    (∀ document, Document.parse source = .ok document →
      (∀ element ∈ document.all, 1 ≤ element.position.line ∧ 1 ≤ element.position.column ∧
        ∃ line, (Text.lines source.toList)[element.position.line - 1]? = some line ∧
          '<' :: element.tag.toList <+: line.drop (element.position.column - 1)) ∧
      document.all.Pairwise fun element other => element.position.Before other.position) ∧
    ∀ position fault, Document.parse source = .error (.markup position fault) →
      1 ≤ position.line ∧ position.line ≤ (Text.lines source.toList).length ∧ 1 ≤ position.column ∧
        ∃ line, (Text.lines source.toList)[position.line - 1]? = some line ∧
          position.column ≤ line.length + 1 := by
  constructor
  · intro document parsed
    have wellFormed := Reader.wellFormed_of_readDocument parsed
    unfold Document.parse at parsed
    rw [Reader.readDocument_eq] at parsed
    obtain ⟨⟨script, later⟩, head, parsed⟩ := ok_of_bind parsed
    obtain ⟨elements, run, done⟩ := ok_of_bind parsed
    cases done
    have reached := (Reader.readHead_reads head).1
    obtain ⟨opens, ordered⟩ := Reader.Progress.placed_of_run run
    refine ⟨?_, ordered⟩
    intro element member
    have here : (Cursor.ofText source.toList).OpensAt element.tag element.position :=
      (opens element member).behind reached
    obtain ⟨line, column, _⟩ := here.holds.exists_line
    exact ⟨line, column, here.exists_line (wellFormed.proper element member).name⟩
  · intro position fault failed
    have held := Reader.locates_readDocument source.toList position fault failed
    obtain ⟨line, column, whole, found, bound⟩ := held.exists_line
    have isLine := (List.getElem?_eq_some_iff.mp found).1
    exact ⟨line, by omega, column, whole, found, bound⟩

theorem Document.places_of_parse_rows :
    let source := "<!-- é\r\n --><Row>\r\n é: <b\n>x</b><br/>\n</Row><i/>"
    let mismatched := "<Row>\n é <b>x</Row>"
    (∃ document, Document.parse source = .ok document ∧
      document.all.map Element.place =
        [("Row", ⟨2, 5⟩), ("b", ⟨3, 5⟩), ("br", ⟨4, 7⟩), ("i", ⟨5, 7⟩)] ∧
      (∀ element ∈ document.all, 1 ≤ element.position.line ∧ 1 ≤ element.position.column ∧
        ∃ line, (Text.lines source.toList)[element.position.line - 1]? = some line ∧
          '<' :: element.tag.toList <+: line.drop (element.position.column - 1)) ∧
      document.all.Pairwise fun element other => element.position.Before other.position) ∧
    Document.parse mismatched = .error (.markup ⟨2, 8⟩ (.mismatched "b" "Row")) ∧
      ∃ line, (Text.lines mismatched.toList)[2 - 1]? = some line ∧ 8 ≤ line.length + 1 := by
  intro source mismatched
  obtain ⟨document, parsed, places⟩ := ok_of_toOption_map
    (show (Document.parse source).toOption.map (fun document => document.all.map Element.place) =
      some [("Row", ⟨2, 5⟩), ("b", ⟨3, 5⟩), ("br", ⟨4, 7⟩), ("i", ⟨5, 7⟩)] by decide +kernel)
  have failed : Document.parse mismatched = .error (.markup ⟨2, 8⟩ (.mismatched "b" "Row")) := by
    apply error_iff.mpr
    decide +kernel
  have whole := (Document.places_of_parse source).1 document parsed
  obtain ⟨_, _, _, inLine⟩ := (Document.places_of_parse mismatched).2 _ _ failed
  exact ⟨⟨document, parsed, places, whole⟩, failed, inLine⟩

end UiMarkup
