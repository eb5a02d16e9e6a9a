import UiMarkup.Proofs.Markup.Steps

namespace UiMarkup.Reader

open Text (isBlank)

theorem toLower_class {α : Type} {keep : Char → α}
    (capitals : ∀ n ∈ List.range 91, 65 ≤ n → keep (Char.ofNat n).toLower = keep (Char.ofNat n))
    (c : Char) : keep c.toLower = keep c := by
  by_cases upper : c.val ≥ 'A'.val ∧ c.val ≤ 'Z'.val
  · have range : 65 ≤ c.toNat ∧ c.toNat ≤ 90 := upper
    have found := capitals c.toNat (by simp; omega) range.1
    rwa [Char.ofNat_toNat] at found
  · have same : c.toLower = c := dif_neg upper
    rw [same]

theorem isNameStart_toLower (c : Char) : isNameStart c.toLower = isNameStart c :=
  toLower_class (by decide +kernel) c

theorem isNamePart_toLower (c : Char) : isNamePart c.toLower = isNamePart c :=
  toLower_class (by decide +kernel) c

theorem isTagName_of_lowered_eq {left right : List Char} (h : Text.lowered left = Text.lowered right)
    (name : IsTagName right) : IsTagName left := by
  obtain ⟨c, rest, rfl, start, parts⟩ := name
  obtain ⟨d, others, rfl, first, more⟩ := List.map_eq_cons_iff.mp h
  refine ⟨d, others, rfl, ?_, ?_⟩
  · rw [← isNameStart_toLower, first, isNameStart_toLower, start]
  · intro e he
    have low : e.toLower ∈ rest.map Char.toLower := more ▸ List.mem_map_of_mem he
    obtain ⟨f, hf, same⟩ := List.mem_map.mp low
    rw [← isNamePart_toLower, ← same, isNamePart_toLower, parts f hf]

theorem attributes_head {given : List Attribute} {raw rest : List Char}
    (written : AttributesWritten given raw) (tagEnd : EndsTag rest) :
    ∃ c more, raw ++ rest = c :: more ∧ (isBlank c = true ∨ c = '>' ∨ c = '/') := by
  cases written with
  | nil isGap =>
    cases raw with
    | nil =>
      rcases tagEnd with ⟨more, rfl⟩ | ⟨more, rfl⟩
      · exact ⟨'>', more, rfl, .inr (.inl rfl)⟩
      · exact ⟨'/', '>' :: more, rfl, .inr (.inr rfl)⟩
    | cons b gap => exact ⟨b, _, rfl, .inl (isGap b (by simp))⟩
  | @cons first others gap text more apart isGap isFirst isMore =>
    obtain ⟨b, gap, rfl⟩ := List.exists_cons_of_ne_nil apart
    exact ⟨b, _, rfl, .inl (isGap b (by simp))⟩

theorem isNamePart_of_ends {c : Char} (h : isBlank c = true ∨ c = '>' ∨ c = '/') :
    isNamePart c = false := by
  rcases h with blank | rfl | rfl
  · exact isNamePart_of_isBlank blank
  · decide +kernel
  · decide +kernel

theorem stops_namePart_of_attributes {given : List Attribute} {raw rest : List Char}
    (written : AttributesWritten given raw) (tagEnd : EndsTag rest) :
    Stops isNamePart (raw ++ rest) := by
  obtain ⟨c, more, shape, ends⟩ := attributes_head written tagEnd
  rw [shape]
  exact Stops.cons (isNamePart_of_ends ends) _

theorem head_of_isTagName {name : List Char} (isName : IsTagName name) (rest : List Char) :
    ∃ c more, name ++ rest = c :: more ∧ c ≠ '/' ∧ c ≠ '!' := by
  obtain ⟨c, more, rfl, start, _⟩ := isName
  refine ⟨c, more ++ rest, rfl, ?_, ?_⟩
  · rintro rfl
    simp [show isNameStart '/' = false by decide] at start
  · rintro rfl
    simp [show isNameStart '!' = false by decide] at start

section Opening

variable {tag : String} {given : List Attribute} {raw : List Char}

theorem readOpening_append (position : Position) {depth : Nat} {rest last : List Char}
    (name : IsTagName tag.toList) (notScript : Text.sameLetters tag "script" = false)
    (room : depth < depthLimit) (wellFormed : ∀ a ∈ given, a.WellFormed)
    (written : AttributesWritten given raw) (finish : last = ['>'] ∨ last = ['/', '>']) :
    readOpening depth ⟨position, '<' :: (tag.toList ++ (raw ++ last)) ++ rest⟩ =
      .ok (⟨tag, position, given, last == ['/', '>'] || isVoid tag⟩,
        ⟨position.advance ('<' :: (tag.toList ++ (raw ++ last))), rest⟩) := by
  have tagEnd : EndsTag (last ++ rest) := by
    rcases finish with rfl | rfl
    · exact .inl ⟨_, rfl⟩
    · exact .inr ⟨_, rfl⟩
  have notDeep : ¬ depth ≥ depthLimit := by omega
  have named := readName_append (position.after '<') name (stops_namePart_of_attributes written tagEnd)
  have attributes := readAttributes_append ((position.after '<').advance tag.toList) wellFormed written
    tagEnd
  rw [readOpening, List.cons_append, expect_cons]
  simp only [List.append_assoc, Bind.bind, Except.bind, named, String.ofList_toList, notScript,
    notDeep, Bool.false_eq_true, ↓reduceIte, attributes]
  rcases finish with rfl | rfl
  · simp [expect, Cursor.skip, Pure.pure, Except.pure, Position.advance_append]
  · simp [Cursor.skip, Pure.pure, Except.pure, Position.advance_append]

end Opening

def Frame.addAll (frame : Frame) (content : List (Content Element)) : Frame :=
  { frame with children := content.reverse ++ frame.children }

theorem Frame.addAll_append (frame : Frame) (left right : List (Content Element)) :
    (frame.addAll left).addAll right = frame.addAll (left ++ right) := by
  simp [Frame.addAll]

namespace Progress

def AtAngle (rest : List Char) : Prop :=
  ∃ more, rest = '<' :: more

theorem step_tag (position : Position) (frames : List Frame) (elements : List Element)
    {name : List Char} (isName : IsTagName name) (rest : List Char) :
    step ⟨⟨position, '<' :: (name ++ rest)⟩, frames, elements⟩ =
      some <$> openElement ⟨⟨position, '<' :: (name ++ rest)⟩, frames, elements⟩
        ⟨position, '<' :: (name ++ rest)⟩ := by
  obtain ⟨c, more, shape, slash, mark⟩ := head_of_isTagName isName rest
  rw [shape]
  have plain : ¬ ['<', '!', '-', '-'] <+: '<' :: c :: more := by
    simp [mark.symm]
  have here : atComment ⟨position, '<' :: c :: more⟩ = false := atComment_eq_false_iff.mpr plain
  cases frames with
  | nil =>
    have none : Trivia [] := .blanks (by simp [Blanks])
    have trivia := skipTrivia_append position none (Stops.cons (by decide) _) plain
    simp only [List.nil_append, Position.advance_nil] at trivia
    simp only [step, trivia, Bind.bind, Except.bind]
    split
    · contradiction
    · simp_all
    · rfl
    · simp_all
  | cons frame outer =>
    simp only [step, here, Bool.false_eq_true, ↓reduceIte]
    split
    · contradiction
    · simp_all
    · rfl
    · simp_all

theorem step_comment (position : Position) (frame : Frame) (outer : List Frame)
    (elements : List Element) {text : List Char} (comment : IsComment text) (rest : List Char) :
    step ⟨⟨position, text ++ rest⟩, frame :: outer, elements⟩ =
      .ok (some ⟨⟨position.advance text, rest⟩, frame :: outer, elements⟩) := by
  simp only [step, atComment_append _ comment, skipComment_append _ comment, ↓reduceIte, Bind.bind,
    Except.bind, Pure.pure, Except.pure, moveTo]

/-- What a run of text adds to the content, given its collapsed form. -/
def textPart (text : List Char) : List (Content Element) :=
  if text = [] then [] else [.text (String.ofList text)]

theorem step_text (position : Position) (frame : Frame) (outer : List Frame)
    (elements : List Element) {text rest : List Char} (filled : text ≠ []) (inside : '<' ∉ text)
    (next : AtAngle rest) :
    step ⟨⟨position, text ++ rest⟩, frame :: outer, elements⟩ =
      .ok (some ⟨⟨position.advance text, rest⟩,
        frame.addAll (textPart (Text.collapse (Entity.decode text))) :: outer, elements⟩) := by
  have chars : ∀ c ∈ text, (c != '<') = true := by
    intro c hc
    simp only [bne_iff_ne]
    rintro rfl
    exact inside hc
  have stop : Stops (· != '<') rest := by
    obtain ⟨more, rfl⟩ := next
    exact Stops.cons (by decide) _
  have added : addText ⟨⟨position, text ++ rest⟩, frame :: outer, elements⟩ frame outer =
      ⟨⟨position.advance text, rest⟩,
        frame.addAll (textPart (Text.collapse (Entity.decode text))) :: outer, elements⟩ := by
    simp only [addText, run_append position chars stop, skipWhile_append position chars stop]
    by_cases none : Text.collapse (Entity.decode text) = []
    · simp [none, textPart, Frame.addAll, moveTo]
    · simp [none, textPart, Frame.addAll, Frame.add]
  obtain ⟨c, more, rfl⟩ := List.exists_cons_of_ne_nil filled
  have char : c ≠ '<' := fun same => inside (by simp [same])
  have here : atComment ⟨position, c :: more ++ rest⟩ = false := by
    refine atComment_eq_false_iff.mpr ?_
    simp [char.symm]
  simp only [step, here, Bool.false_eq_true, ↓reduceIte]
  split
  · contradiction
  · simp_all
  · simp_all
  · rw [added]
    rfl

theorem step_closing (position : Position) (frame : Frame) (outer : List Frame)
    (elements : List Element) {name gap : List Char} (isName : IsTagName frame.tag.toList)
    (same : Text.lowered name = Text.lowered frame.tag.toList) (isGap : Blanks gap)
    (rest : List Char) :
    step ⟨⟨position, '<' :: '/' :: (name ++ (gap ++ ['>'])) ++ rest⟩, frame :: outer, elements⟩ =
      .ok (some (add ⟨⟨position.advance ('<' :: '/' :: (name ++ (gap ++ ['>']))), rest⟩, outer,
        elements⟩ frame.close)) := by
  have angle : Stops isNamePart ('>' :: rest) := Stops.cons (by decide) _
  have blank : Stops isBlank ('>' :: rest) := Stops.cons (by decide) _
  have behind : Cursor.skip ⟨position, '<' :: '/' :: (name ++ (gap ++ '>' :: rest))⟩ 2 =
      ⟨(position.after '<').after '/', name ++ (gap ++ '>' :: rest)⟩ := rfl
  have named := readName_append ((position.after '<').after '/') (isTagName_of_lowered_eq same isName)
    (stops_append_of_blanks isNamePart_of_isBlank isGap angle)
  have past := skipBlanks_append (((position.after '<').after '/').advance name) isGap blank
  have letters : Text.sameLetters (String.ofList name) frame.tag = true := by
    rw [Text.sameLetters_iff, Text.lower, Text.lower, String.toList_ofList, same]
  have here : atComment ⟨position, '<' :: '/' :: (name ++ (gap ++ '>' :: rest))⟩ = false := by
    refine atComment_eq_false_iff.mpr ?_
    simp
  simp only [List.cons_append, List.append_assoc, List.nil_append]
  simp only [step, here, Bool.false_eq_true, ↓reduceIte, closeElement, behind, named, Bind.bind,
    Except.bind, past, expect_cons, letters]
  simp [Functor.map, Except.map, Pure.pure, Except.pure, Position.advance_append]

theorem atAngle_of_element {element : Element} {text : List Char} (written : element.Written text)
    (rest : List Char) : AtAngle (text ++ rest) := by
  cases written <;> exact ⟨_, rfl⟩

theorem atAngle_of_content {content : List (Content Element)} {text rest : List Char}
    (written : Content.Written false content text) (next : AtAngle rest) : AtAngle (text ++ rest) := by
  cases written with
  | nil => exact next
  | comment isComment more =>
    obtain ⟨body, rfl⟩ := IsComment.exists_eq isComment
    exact ⟨_, rfl⟩
  | element first more =>
    rw [List.append_assoc]
    exact atAngle_of_element first _

theorem run_opening (position : Position) (elements : List Element) {element : Element}
    {frames : List Frame} {raw last : List Char} (rest : List Char) (proper : element.Proper)
    (room : frames.length < depthLimit) (given : AttributesWritten element.attributes raw)
    (finish : last = ['>'] ∨ last = ['/', '>']) :
    run ⟨⟨position, '<' :: (element.tag.toList ++ (raw ++ last)) ++ rest⟩, frames, elements⟩ =
      run (opened ⟨⟨position, '<' :: (element.tag.toList ++ (raw ++ last)) ++ rest⟩, frames, elements⟩
        ⟨element.tag, position, element.attributes, last == ['/', '>'] || isVoid element.tag⟩
        ⟨position.advance ('<' :: (element.tag.toList ++ (raw ++ last))), rest⟩) := by
  refine run_of_step ?_
  have tag := step_tag position frames elements proper.name (raw ++ last ++ rest)
  rw [← List.append_assoc, ← List.cons_append] at tag
  rw [tag, openElement_eq, readOpening_append position proper.name proper.notScript room
    proper.attributes given finish]
  rfl

mutual

theorem run_element {element : Element} {text : List Char} (written : element.Written text)
    (proper : ∀ inner ∈ element.all, inner.Proper) (frames : List Frame)
    (room : frames.length + element.levels ≤ depthLimit) (position : Position) (rest : List Char)
    (elements : List Element) :
    ∃ read, read.unplaced = element.unplaced ∧
      run ⟨⟨position, text ++ rest⟩, frames, elements⟩ =
        run (add ⟨⟨position.advance text, rest⟩, frames, elements⟩ read) :=
  match written with
  | .complete empty given => by
    have self := proper element element.self_mem_all
    have deep : frames.length < depthLimit := by
      rw [element.levels_eq] at room
      omega
    refine ⟨⟨element.tag, position, element.attributes, []⟩, ?_, ?_⟩
    · simp [Element.unplaced_eq, empty]
    · rw [run_opening position elements rest self deep given (.inr rfl)]
      rfl
  | .void isVoid given => by
    have self := proper element element.self_mem_all
    have deep : frames.length < depthLimit := by
      rw [element.levels_eq] at room
      omega
    refine ⟨⟨element.tag, position, element.attributes, []⟩, ?_, ?_⟩
    · simp [Element.unplaced_eq, self.void isVoid]
    · rw [run_opening position elements rest self deep given (.inl rfl)]
      simp [opened, isVoid, moveTo]
  | @Element.Written.enclosing _ attributes inner closing gap notVoid given inside same isGap => by
    have self := proper element element.self_mem_all
    rw [element.levels_eq] at room
    have deep : frames.length < depthLimit := by omega
    let frame : Frame := ⟨element.tag, position, element.attributes, []⟩
    let openingTag := '<' :: (element.tag.toList ++ (attributes ++ ['>']))
    let closingTag := '<' :: '/' :: (closing ++ (gap ++ ['>']))
    have whole : '<' :: (element.tag.toList ++ (attributes ++ '>' :: (inner ++ closingTag))) =
        openingTag ++ (inner ++ closingTag) := by
      simp [openingTag]
    obtain ⟨read, alike, content⟩ := run_content inside (Element.proper_content proper)
      (fun text member => (self.texts text member).1) frame frames (by omega)
      (position.advance openingTag) (closingTag ++ rest) ⟨_, rfl⟩ elements
    refine ⟨(frame.addAll read).close, ?_, ?_⟩
    · simp [Element.unplaced_eq, Frame.close, Frame.addAll, frame, alike]
    · calc run ⟨⟨position, _ ++ rest⟩, frames, elements⟩
          = run ⟨⟨position, openingTag ++ (inner ++ (closingTag ++ rest))⟩, frames, elements⟩ := by
            rw [whole, List.append_assoc, List.append_assoc]
        _ = run ⟨⟨position.advance openingTag, inner ++ (closingTag ++ rest)⟩, frame :: frames,
              elements⟩ := by
            rw [run_opening position elements _ self deep given (.inl rfl)]
            simp [opened, notVoid, frame, openingTag]
        _ = run ⟨⟨(position.advance openingTag).advance inner, closingTag ++ rest⟩,
              frame.addAll read :: frames, elements⟩ := content
        _ = run (add ⟨⟨((position.advance openingTag).advance inner).advance closingTag, rest⟩,
              frames, elements⟩ (frame.addAll read).close) :=
            run_of_step (step_closing _ (frame.addAll read) frames elements self.name same isGap rest)
        _ = _ := by rw [whole, Position.advance_append, Position.advance_append]

theorem run_content {free : Bool} {content : List (Content Element)} {text : List Char}
    (written : Content.Written free content text)
    (proper : ∀ inner ∈ Content.all content, inner.Proper)
    (texts : ∀ text, .text text ∈ content → text.toList ≠ []) (frame : Frame) (outer : List Frame)
    (room : outer.length + 1 + Content.levels content ≤ depthLimit) (position : Position)
    (rest : List Char) (next : AtAngle rest) (elements : List Element) :
    ∃ read, Content.unplaced read = Content.unplaced content ∧
      run ⟨⟨position, text ++ rest⟩, frame :: outer, elements⟩ =
        run ⟨⟨position.advance text, rest⟩, frame.addAll read :: outer, elements⟩ :=
  match written with
  | .nil => ⟨[], rfl, by simp [Frame.addAll]⟩
  | @Content.Written.comment _ _ comment later isComment more => by
    obtain ⟨read, alike, done⟩ := run_content more proper texts frame outer room
      (position.advance comment) rest next elements
    refine ⟨read, alike, ?_⟩
    rw [List.append_assoc, run_of_step (step_comment position frame outer elements isComment _), done,
      Position.advance_append]
  | @Content.Written.gap _ laid raw later filled isGap spelled more => by
    have inside : '<' ∉ raw := Entity.not_mem_of_spells spelled (by simp) (by decide) (by decide)
    have nothing : textPart (Text.collapse (Entity.decode raw)) = [] := by
      rw [Entity.decode_of_spells spelled, Text.collapse_eq_nil_of_blank isGap]
      rfl
    obtain ⟨read, alike, done⟩ := run_content more proper texts frame outer room
      (position.advance raw) rest next elements
    refine ⟨read, alike, ?_⟩
    rw [List.append_assoc, run_of_step (step_text position frame outer elements
      (Entity.ne_nil_of_spells spelled filled) inside (atAngle_of_content more next)), nothing,
      Position.advance_append, ← done]
    rfl
  | @Content.Written.text content text laid raw later collapsed spelled more => by
    have inside : '<' ∉ raw := Entity.not_mem_of_spells spelled (by simp) (by decide) (by decide)
    have some : text.toList ≠ [] := texts text (by simp)
    have filled : laid ≠ [] := by
      rintro rfl
      exact some collapsed.symm
    have added : textPart (Text.collapse (Entity.decode raw)) = [.text text] := by
      rw [Entity.decode_of_spells spelled, collapsed, textPart, if_neg some, String.ofList_toList]
    obtain ⟨read, alike, done⟩ := run_content more proper
      (fun other member => texts other (by simp [member])) (frame.addAll [.text text]) outer room
      (position.advance raw) rest next elements
    refine ⟨.text text :: read, by simp [Content.unplaced, alike], ?_⟩
    rw [List.append_assoc, run_of_step (step_text position frame outer elements
      (Entity.ne_nil_of_spells spelled filled) inside (atAngle_of_content more next)), added, done,
      Position.advance_append, Frame.addAll_append]
    rfl
  | @Content.Written.element _ content element text later first more => by
    simp only [Content.levels] at room
    simp only [Content.all, List.mem_append] at proper
    obtain ⟨child, same, start⟩ := run_element first (fun inner member => proper inner (.inl member))
      (frame :: outer) (by simp only [List.length_cons]; omega) position (later ++ rest) elements
    obtain ⟨read, alike, done⟩ := run_content more (fun inner member => proper inner (.inr member))
      (fun other member => texts other (by simp [member])) (frame.addAll [.element child]) outer
      (by omega) (position.advance text) rest next elements
    refine ⟨.element child :: read, by simp [Content.unplaced, same, alike], ?_⟩
    rw [Frame.addAll_append] at done
    rw [List.append_assoc, start, Position.advance_append]
    exact done

end

end Progress

end UiMarkup.Reader
