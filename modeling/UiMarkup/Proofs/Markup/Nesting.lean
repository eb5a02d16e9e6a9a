import UiMarkup.Proofs.Markup.Descent
import UiMarkup.Proofs.Markup.Printing

namespace UiMarkup

structure Placement where
  level : Nat
  before : List Char
  element : Element

def Element.printOpening (element : Element) : List Char :=
  '<' :: (element.tag.toList ++ (printAttributes element.attributes ++ ['>']))

def Element.printClosing (element : Element) : List Char :=
  '<' :: '/' :: (element.tag.toList ++ ['>'])

theorem Element.print_eq (element : Element) (notVoid : isVoid element.tag = false) :
    element.print = element.printOpening ++ (Content.print true element.children ++ element.printClosing) := by
  obtain ⟨tag, position, attributes, children⟩ := element
  simp only at notVoid
  simp [Element.print, Element.printOpening, Element.printClosing, notVoid]

mutual

/-- An element on a level, printed behind a text, and the elements inside it, in the order of their
opening tags. -/
def Element.placements (level : Nat) (before : List Char) : Element → List Placement
  | ⟨tag, position, attributes, children⟩ =>
    let element : Element := ⟨tag, position, attributes, children⟩
    ⟨level, before, element⟩ ::
      Content.placements (level + 1) (before ++ element.printOpening) true children

def Content.placements (level : Nat) (before : List Char) :
    (free : Bool) → List (Content Element) → List Placement
  | _, [] => []
  | free, .text text :: rest =>
    Content.placements level (before ++ Content.print free [.text text]) false rest
  | _, .element element :: rest =>
    element.placements level before ++ Content.placements level (before ++ element.print) true rest

end

def Document.placements (document : Document) : List Placement :=
  Content.placements 1 (document.script.elim [] ScriptBlock.print) true (document.elements.map .element)

theorem Element.placements_eq (element : Element) (level : Nat) (before : List Char) :
    element.placements level before = ⟨level, before, element⟩ ::
      Content.placements (level + 1) (before ++ element.printOpening) true element.children := by
  cases element
  rfl

theorem Content.print_text_cons (free : Bool) (text : String) (rest : List (Content Element)) :
    Content.print free (.text text :: rest) =
      Content.print free [.text text] ++ Content.print false rest := by
  cases free <;> simp [Content.print]

theorem Content.print_elements (free : Bool) (elements : List Element) :
    Content.print free (elements.map .element) = elements.flatMap Element.print := by
  induction elements generalizing free with
  | nil => cases free <;> rfl
  | cons first others ih =>
    rw [List.map_cons, Content.print, ih, List.flatMap_cons]

theorem Content.all_elements (elements : List Element) :
    Content.all (elements.map .element) = elements.flatMap Element.all := by
  induction elements with
  | nil => rfl
  | cons first others ih => rw [List.map_cons, Content.all, ih, List.flatMap_cons]

mutual

theorem Element.map_placements (element : Element) (level : Nat) (before : List Char) :
    (element.placements level before).map Placement.element = element.all :=
  match element with
  | ⟨tag, position, attributes, children⟩ => by
    rw [Element.placements, Element.all, List.map_cons, Content.map_placements children]

theorem Content.map_placements (content : List (Content Element)) (level : Nat) (before : List Char)
    (free : Bool) : (Content.placements level before free content).map Placement.element =
      Content.all content :=
  match content with
  | [] => rfl
  | .text text :: rest => by
    rw [Content.placements, Content.all, Content.map_placements rest]
  | .element element :: rest => by
    rw [Content.placements, Content.all, List.map_append, Element.map_placements element,
      Content.map_placements rest]

end

mutual

theorem Element.level_of_mem_placements (element : Element) {level : Nat} {before : List Char}
    {here : Placement} (member : here ∈ element.placements level before) :
    here.level < level + element.levels :=
  match element with
  | ⟨tag, position, attributes, children⟩ => by
    rw [Element.placements] at member
    rw [Element.levels]
    rcases List.mem_cons.mp member with rfl | inside
    · simp only
      omega
    · have inner := Content.level_of_mem_placements children inside
      omega

theorem Content.level_of_mem_placements (content : List (Content Element)) {level : Nat}
    {before : List Char} {free : Bool} {here : Placement}
    (member : here ∈ Content.placements level before free content) :
    here.level < level + Content.levels content :=
  match content with
  | [] => by
    rw [Content.placements] at member
    cases member
  | .text text :: rest => by
    rw [Content.placements] at member
    rw [Content.levels]
    exact Content.level_of_mem_placements rest member
  | .element element :: rest => by
    rw [Content.placements] at member
    rw [Content.levels]
    rcases List.mem_append.mp member with first | later
    · have bound := Element.level_of_mem_placements element first
      omega
    · have bound := Content.level_of_mem_placements rest later
      omega

end

mutual

theorem Element.print_of_mem_placements (element : Element)
    (proper : ∀ inner ∈ element.all, inner.Proper) {level : Nat} {before : List Char} {here : Placement}
    (member : here ∈ element.placements level before) :
    ∃ after, before ++ element.print = here.before ++ (here.element.print ++ after) :=
  match element with
  | ⟨tag, position, attributes, children⟩ => by
    have self := proper _ (Element.self_mem_all _)
    rw [Element.placements] at member
    rcases List.mem_cons.mp member with rfl | inside
    · exact ⟨[], by rw [List.append_nil]⟩
    · cases void : isVoid tag with
      | true =>
        have empty : children = [] := self.void void
        subst empty
        rw [Content.placements] at inside
        cases inside
      | false =>
        obtain ⟨after, shape⟩ := Content.print_of_mem_placements children
          (Element.proper_content proper) inside
        refine ⟨after ++ Element.printClosing ⟨tag, position, attributes, children⟩, ?_⟩
        rw [Element.print_eq ⟨tag, position, attributes, children⟩ void, ← List.append_assoc here.element.print,
          ← List.append_assoc here.before, ← shape]
        simp

theorem Content.print_of_mem_placements (content : List (Content Element))
    (proper : ∀ inner ∈ Content.all content, inner.Proper) {level : Nat} {before : List Char}
    {free : Bool} {here : Placement} (member : here ∈ Content.placements level before free content) :
    ∃ after, before ++ Content.print free content = here.before ++ (here.element.print ++ after) :=
  match content with
  | [] => by
    rw [Content.placements] at member
    cases member
  | .text text :: rest => by
    rw [Content.placements] at member
    rw [Content.print_text_cons, ← List.append_assoc]
    exact Content.print_of_mem_placements rest proper member
  | .element element :: rest => by
    simp only [Content.all, List.mem_append] at proper
    rw [Content.placements] at member
    rw [Content.print]
    rcases List.mem_append.mp member with first | later
    · obtain ⟨after, shape⟩ := Element.print_of_mem_placements element
        (fun inner within => proper inner (.inl within)) first
      refine ⟨after ++ Content.print true rest, ?_⟩
      rw [← List.append_assoc, shape]
      simp
    · rw [← List.append_assoc]
      exact Content.print_of_mem_placements rest (fun inner within => proper inner (.inr within)) later

end

namespace Reader

theorem readOpening_too_deep (position : Position) {depth : Nat} {tag : String} {rest : List Char}
    (name : IsTagName tag.toList) (notScript : Text.sameLetters tag "script" = false)
    (full : depthLimit ≤ depth) (stop : Stops isNamePart rest) :
    readOpening depth ⟨position, '<' :: (tag.toList ++ rest)⟩ =
      .error (.markup position (.tooDeep depthLimit)) := by
  have named := readName_append (position.after '<') name stop
  rw [readOpening, expect_cons, ok_bind, named, ok_bind]
  simp only [String.ofList_toList, notScript, Bool.false_eq_true, ↓reduceIte]
  rw [if_pos full]
  rfl

namespace Progress

/-- Reading stops at the first of these elements that is on the level behind the last one. -/
def StopsAtFirst (placements : List Placement) (progress : Progress) : Prop :=
  ∃ here, placements.find? (fun here => here.level == depthLimit + 1) = some here ∧
    progress.run = .error (.markup (Position.start.advance here.before) (.tooDeep depthLimit))

theorem StopsAtFirst.append {placements : List Placement} {progress : Progress}
    (h : StopsAtFirst placements progress) (more : List Placement) :
    StopsAtFirst (placements ++ more) progress := by
  obtain ⟨here, found, failed⟩ := h
  refine ⟨here, ?_, failed⟩
  rw [List.find?_append, found]
  rfl

theorem StopsAtFirst.behind {placements earlier : List Placement} {progress start : Progress}
    (h : StopsAtFirst placements progress) (low : ∀ here ∈ earlier, here.level ≤ depthLimit)
    (reads : start.run = progress.run) : StopsAtFirst (earlier ++ placements) start := by
  obtain ⟨here, found, failed⟩ := h
  have none : earlier.find? (fun here => here.level == depthLimit + 1) = none := by
    rw [List.find?_eq_none]
    intro other member
    have bound := low other member
    rw [beq_iff_eq]
    omega
  refine ⟨here, ?_, reads.trans failed⟩
  rw [List.find?_append, none, found]
  rfl

theorem stopsAtFirst_of_full {element : Element} (proper : ∀ inner ∈ element.all, inner.Proper)
    {frames : List Frame} (full : frames.length = depthLimit) (before rest : List Char)
    (elements : List Element) :
    StopsAtFirst (element.placements (frames.length + 1) before)
      ⟨⟨Position.start.advance before, element.print ++ rest⟩, frames, elements⟩ := by
  have self := proper element element.self_mem_all
  obtain ⟨_, more, shape, stop⟩ := atTag_of_written (element.written_print proper) self.name rest
  have opening := readOpening_too_deep (Position.start.advance before) self.name self.notScript
    (Nat.le_of_eq full.symm) stop
  refine ⟨⟨frames.length + 1, before, element⟩, ?_, run_of_error ?_⟩
  · rw [Element.placements_eq, full]
    rfl
  · rw [shape, step_tag _ frames elements self.name, openElement_eq, opening]
    rfl

theorem run_printOpening {element : Element} (self : element.Proper) (notVoid : isVoid element.tag = false)
    (frames : List Frame) (room : frames.length < depthLimit) (position : Position) (rest : List Char)
    (elements : List Element) :
    run ⟨⟨position, element.print ++ rest⟩, frames, elements⟩ =
      run ⟨⟨position.advance element.printOpening,
        Content.print true element.children ++ (element.printClosing ++ rest)⟩,
        ⟨element.tag, position, element.attributes, []⟩ :: frames, elements⟩ := by
  have opened := run_opening position elements
    (Content.print true element.children ++ (element.printClosing ++ rest)) self room
    (attributesWritten_print element.attributes) (.inl rfl)
  rw [element.print_eq notVoid, List.append_assoc, List.append_assoc]
  refine opened.trans ?_
  simp [Progress.opened, notVoid, Element.printOpening]

mutual

theorem stopsAtFirst_element (element : Element) (proper : ∀ inner ∈ element.all, inner.Proper)
    (frames : List Frame) (room : frames.length ≤ depthLimit)
    (deep : depthLimit < frames.length + element.levels) (before rest : List Char)
    (elements : List Element) :
    StopsAtFirst (element.placements (frames.length + 1) before)
      ⟨⟨Position.start.advance before, element.print ++ rest⟩, frames, elements⟩ :=
  match element with
  | ⟨tag, position, attributes, children⟩ => by
    let element : Element := ⟨tag, position, attributes, children⟩
    have self : element.Proper := proper element element.self_mem_all
    by_cases full : frames.length = depthLimit
    · exact stopsAtFirst_of_full proper full before rest elements
    · -- the element is read as far as its content, and the content is too deep
      rw [Element.levels] at deep
      have notVoid : isVoid element.tag = false := by
        by_contra void
        have empty : children = [] := self.void (by simpa using void)
        rw [empty, Content.levels] at deep
        omega
      have inner := stopsAtFirst_content true children (Element.proper_content proper) self.texts
        ⟨tag, Position.start.advance before, attributes, []⟩ frames (by omega) (by omega)
        (before ++ element.printOpening) (element.printClosing ++ rest) ⟨_, rfl⟩ elements
      have alone : ∀ here ∈ [(⟨frames.length + 1, before, element⟩ : Placement)],
          here.level ≤ depthLimit := by
        intro here member
        rw [List.mem_singleton.mp member]
        simp only
        omega
      have opened := run_printOpening self notVoid frames (by omega) (Position.start.advance before) rest elements
      rw [Position.advance_append] at inner
      exact inner.behind alone opened

theorem stopsAtFirst_content (free : Bool) (content : List (Content Element))
    (proper : ∀ inner ∈ Content.all content, inner.Proper)
    (texts : ∀ text, .text text ∈ content → text.toList ≠ [] ∧ Text.SingleSpaced text.toList)
    (frame : Frame) (outer : List Frame) (room : outer.length < depthLimit)
    (deep : depthLimit < outer.length + 1 + Content.levels content) (before rest : List Char)
    (next : AtAngle rest) (elements : List Element) :
    StopsAtFirst (Content.placements (outer.length + 2) before free content)
      ⟨⟨Position.start.advance before, Content.print free content ++ rest⟩, frame :: outer, elements⟩ :=
  match content with
  | [] => by
    rw [Content.levels] at deep
    omega
  | .text text :: others => by
    have single : ∀ other, .text other ∈ [(.text text : Content Element)] →
        other.toList ≠ [] ∧ Text.SingleSpaced other.toList := by
      intro other member
      cases List.mem_singleton.mp member
      exact texts text (by simp)
    have first := Content.written_print free [.text text] (by simp [Content.all]) single
    have more := Content.written_print false others proper
      (fun other member => texts other (by simp [member]))
    obtain ⟨read, _, start⟩ := run_content first (by simp [Content.all])
      (fun other member => (single other member).1) frame outer (by simp only [Content.levels]; omega)
      (Position.start.advance before) (Content.print false others ++ rest)
      (atAngle_of_content more next) elements
    have later := stopsAtFirst_content false others proper
      (fun other member => texts other (by simp [member])) (frame.addAll read) outer room deep
      (before ++ Content.print free [.text text]) rest next elements
    rw [Position.advance_append] at later
    rw [Content.print_text_cons free text others, List.append_assoc, Content.placements]
    exact @StopsAtFirst.behind _ [] _ _ later (by simp) start
  | .element element :: others => by
    simp only [Content.all, List.mem_append] at proper
    have inFirst : ∀ inner ∈ element.all, inner.Proper := fun inner member => proper inner (.inl member)
    rw [Content.placements, Content.print, List.append_assoc]
    by_cases here : depthLimit < outer.length + 1 + element.levels
    · exact (stopsAtFirst_element element inFirst (frame :: outer) room here before _ elements).append _
    · obtain ⟨child, _, start⟩ := run_element (element.written_print inFirst) inFirst (frame :: outer)
        (by simp only [List.length_cons]; omega) (Position.start.advance before)
        (Content.print true others ++ rest) elements
      rw [Content.levels] at deep
      have later := stopsAtFirst_content true others (fun inner member => proper inner (.inr member))
        (fun other member => texts other (by simp [member])) (frame.add (.element child)) outer room
        (by omega) (before ++ element.print) rest next elements
      rw [Position.advance_append] at later
      refine later.behind ?_ start
      intro other member
      have bound := element.level_of_mem_placements member
      omega

end

theorem stopsAtFirst_elements (others : List Element)
    (proper : ∀ element ∈ others, ∀ inner ∈ element.all, inner.Proper)
    (deep : ∃ element ∈ others, depthLimit < element.levels) (before : List Char)
    (elements : List Element) :
    StopsAtFirst (Content.placements 1 before true (others.map .element))
      ⟨⟨Position.start.advance before, others.flatMap Element.print⟩, [], elements⟩ := by
  induction others generalizing before elements with
  | nil =>
    obtain ⟨element, member, _⟩ := deep
    cases member
  | cons first others ih =>
    have inFirst := proper first (by simp)
    rw [List.map_cons, Content.placements, List.flatMap_cons]
    by_cases here : depthLimit < first.levels
    · have found := stopsAtFirst_element first inFirst [] (Nat.zero_le _) (by simpa using here) before
        (others.flatMap Element.print) elements
      exact found.append _
    · obtain ⟨read, _, start⟩ := run_element (first.written_print inFirst) inFirst []
        (by simpa using here) (Position.start.advance before) (others.flatMap Element.print) elements
      have further : ∃ element ∈ others, depthLimit < element.levels := by
        obtain ⟨element, member, tooDeep⟩ := deep
        rcases List.mem_cons.mp member with rfl | later
        · contradiction
        · exact ⟨element, later, tooDeep⟩
      have later := ih (fun element member => proper element (by simp [member])) further
        (before ++ first.print) (read :: elements)
      rw [Position.advance_append] at later
      refine later.behind ?_ start
      intro other member
      have bound := first.level_of_mem_placements member
      omega

end Progress

theorem readDocument_print {document : Document}
    (clean : ∀ script ∈ document.script, ¬ scriptEnd <:+: Text.lowered script.content.toList)
    (proper : ∀ element ∈ document.elements, ∀ inner ∈ element.all, inner.Proper) :
    ∃ script, readDocument document.print.toList =
      Progress.run ⟨⟨Position.start.advance (document.script.elim [] ScriptBlock.print),
        document.elements.flatMap Element.print⟩, [], []⟩ >>= fun read => .ok ⟨script, read⟩ := by
  rw [Document.print, String.toList_ofList]
  cases present : document.script with
  | none =>
    exact ⟨none, readDocument_plain (elementsWritten_print proper)
      (fun element member => proper element member element element.self_mem_all)⟩
  | some script =>
    obtain ⟨line, start⟩ := @readDocument_scripted script [] _ (.blanks (by decide)) script.written_print
      (clean script present) (document.elements.flatMap Element.print)
    exact ⟨some ⟨script.content, line⟩, start⟩

end Reader

/-- A document that could be read if it had fewer levels: its print is read up to the first element on
the level behind the last one that is allowed, and the error is told where this element starts. When
elements are read by recursive descent, which gives the same result for every text, the number of open
elements behind an element is the one before it, whether the element is read or not. -/
theorem Document.parse_print_too_deep {document : Document}
    (clean : ∀ script ∈ document.script, ¬ scriptEnd <:+: Text.lowered script.content.toList)
    (proper : ∀ element ∈ document.all, element.Proper)
    (deep : ∃ element ∈ document.elements, Reader.depthLimit < element.levels) :
    (document.placements.map Placement.element = document.all ∧
      ∃ here, document.placements.find? (fun here => here.level == Reader.depthLimit + 1) = some here ∧
        (∃ after, document.print.toList = here.before ++ (here.element.print ++ after)) ∧
        Document.parse document.print =
          .error (.markup (Position.start.advance here.before) (.tooDeep Reader.depthLimit))) ∧
    (∀ source : String, (Reader.Descent.document source.toList).result 0 = Document.parse source) ∧
    ∀ fuel cursor count, (Reader.Descent.element fuel cursor).countAfter count = count := by
  have inside : ∀ element ∈ document.elements, ∀ inner ∈ element.all, inner.Proper :=
    fun element member inner within => proper inner (List.mem_flatMap.mpr ⟨element, member, within⟩)
  have order : document.placements.map Placement.element = document.all := by
    rw [Document.placements, Content.map_placements, Content.all_elements]
    rfl
  obtain ⟨here, found, failed⟩ := Reader.Progress.stopsAtFirst_elements document.elements inside deep
    (document.script.elim [] ScriptBlock.print) []
  obtain ⟨script, start⟩ := Reader.readDocument_print clean inside
  refine ⟨⟨order, here, found, ?_, ?_⟩, ?_, ?_⟩
  · have every : ∀ inner ∈ Content.all (document.elements.map .element), inner.Proper := by
      rw [Content.all_elements]
      exact proper
    obtain ⟨after, shape⟩ := Content.print_of_mem_placements _ every (List.mem_of_find?_eq_some found)
    rw [Content.print_elements] at shape
    refine ⟨after, ?_⟩
    rw [← shape, Document.print, String.toList_ofList]
  · rw [Document.parse, start, failed]
    rfl
  · intro source
    exact Reader.result_document source.toList
  · intro fuel cursor count
    exact Reader.Descent.balanced_element fuel cursor count

theorem Document.parse_print_too_deep_rows :
    let row : Element → Element := fun inner =>
      ⟨"Row", .start, [], [.element ⟨"br", .start, [], []⟩, .text "x", .element inner]⟩
    let rows : Nat → Element := fun n => Nat.iterate row n ⟨"b", .start, [], []⟩
    let document : Document := ⟨some ⟨"@A = 1", 1⟩, [rows 255, rows 256, rows 1]⟩
    (∀ script ∈ document.script, ¬ scriptEnd <:+: Text.lowered script.content.toList) ∧
    (∀ element ∈ document.all, element.Proper) ∧
    (∃ element ∈ document.elements, Reader.depthLimit < element.levels) ∧
    ∃ here, document.placements.find? (fun here => here.level == Reader.depthLimit + 1) = some here ∧
      Document.parse document.print =
        .error (.markup (Position.start.advance here.before) (.tooDeep Reader.depthLimit)) := by
  intro row rows document
  have clean : ∀ script ∈ document.script, ¬ scriptEnd <:+: Text.lowered script.content.toList := by
    decide +kernel
  have inRows : ∀ n, ∀ element ∈ (rows n).all, element.Proper := by
    intro n
    induction n with
    | zero =>
      have inner : (⟨"b", .start, [], []⟩ : Element).Proper := by decide +kernel
      intro element member
      rw [List.mem_singleton.mp member]
      exact inner
    | succ n ih =>
      have next : rows (n + 1) = row (rows n) := Function.iterate_succ_apply' row n _
      have empty : (⟨"Row", .start, [], [.text "x"]⟩ : Element).Proper := by decide +kernel
      have notVoid : ¬ isVoid "Row" = true := by decide
      have ending : (⟨"br", .start, [], []⟩ : Element).Proper := by decide +kernel
      intro element member
      rw [next] at member
      rcases Element.mem_all_iff.mp member with rfl | inside
      · refine ⟨empty.name, empty.notScript, empty.attributes, fun void => absurd void notVoid, ?_⟩
        intro text isText
        apply empty.texts
        simpa [row] using isText
      · simp only [row, Content.all, Element.all, List.mem_append, List.mem_singleton] at inside
        rcases inside with rfl | deeper
        · exact ending
        · exact ih element (by simpa using deeper)
  have proper : ∀ element ∈ document.all, element.Proper := by
    intro element member
    obtain ⟨outer, isOuter, within⟩ := List.mem_flatMap.mp member
    have isRows : outer = rows 255 ∨ outer = rows 256 ∨ outer = rows 1 := by
      simpa [document] using isOuter
    rcases isRows with rfl | rfl | rfl
    · exact inRows 255 element within
    · exact inRows 256 element within
    · exact inRows 1 element within
  have deep : ∃ element ∈ document.elements, Reader.depthLimit < element.levels := by
    have levels : Reader.depthLimit < (rows 256).levels := by decide +kernel
    exact ⟨rows 256, by simp [document], levels⟩
  obtain ⟨⟨_, here, found, _, failed⟩, _⟩ := Document.parse_print_too_deep clean proper deep
  exact ⟨clean, proper, deep, here, found, failed⟩

end UiMarkup
