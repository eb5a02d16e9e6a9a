import UiMarkup.Proofs.Markup.Completeness

namespace UiMarkup.Reader

open Text (isBlank)

namespace Progress

theorem run_congr {left right : Progress} (steps : left.step = right.step)
    (ends : left.finish = right.finish) : left.run = right.run := by
  rcases found : right.step with e | _ | next
  · rw [run_of_error found, run_of_error (steps.trans found)]
  · rw [run_of_end found, run_of_end (steps.trans found), ends]
  · rw [run_of_step found, run_of_step (steps.trans found)]

theorem run_of_trivia {start later : Cursor} (elements : List Element)
    (skipped : skipTrivia start = .ok later) (settled : skipTrivia later = .ok later) :
    run ⟨start, [], elements⟩ = run ⟨later, [], elements⟩ := by
  refine run_congr ?_ rfl
  simp only [step, skipped, settled]
  rfl

end Progress

def AtTag (name rest : List Char) : Prop :=
  IsTagName name ∧ ∃ more, rest = '<' :: (name ++ more) ∧ Stops isNamePart more

theorem atTag_of_written {element : Element} {text : List Char} (written : element.Written text)
    (name : IsTagName element.tag.toList) (rest : List Char) :
    AtTag element.tag.toList (text ++ rest) := by
  refine ⟨name, ?_⟩
  cases written with
  | complete empty given =>
    refine ⟨_, by rw [List.cons_append, List.append_assoc], ?_⟩
    rw [List.append_assoc]
    exact stops_namePart_of_attributes given (.inr ⟨_, rfl⟩)
  | void isVoid given =>
    refine ⟨_, by rw [List.cons_append, List.append_assoc], ?_⟩
    rw [List.append_assoc]
    exact stops_namePart_of_attributes given (.inl ⟨_, rfl⟩)
  | enclosing notVoid given inside same isGap =>
    refine ⟨_, by rw [List.cons_append, List.append_assoc], ?_⟩
    rw [List.append_assoc]
    exact stops_namePart_of_attributes given (.inl ⟨_, rfl⟩)

theorem AtTag.skipTrivia_append {name rest gap : List Char} (here : AtTag name rest)
    (trivia : Trivia gap) (position : Position) :
    skipTrivia ⟨position, gap ++ rest⟩ = .ok ⟨position.advance gap, rest⟩ := by
  obtain ⟨isName, more, rfl, _⟩ := here
  obtain ⟨c, others, shape, _, mark⟩ := head_of_isTagName isName more
  refine Reader.skipTrivia_append position trivia (Stops.cons (by decide) _) ?_
  rw [shape]
  simp [mark.symm]

theorem AtTag.skipTrivia_self {name rest : List Char} (here : AtTag name rest)
    (position : Position) : skipTrivia ⟨position, rest⟩ = .ok ⟨position, rest⟩ := by
  have none : Trivia [] := .blanks (by simp [Blanks])
  exact here.skipTrivia_append none position

theorem isNamePart_of_lowered_script {name : List Char} (h : Text.lowered name = "script".toList) :
    ∀ c ∈ name, isNamePart c = true := by
  intro c hc
  have low : c.toLower ∈ "script".toList := h ▸ List.mem_map_of_mem hc
  have letters : "script".toList.all isNamePart = true := by decide +kernel
  rw [← isNamePart_toLower, List.all_eq_true.mp letters _ low]

theorem AtTag.atScript_eq_false {name rest : List Char} (here : AtTag name rest)
    (other : Text.lowered name ≠ "script".toList) (position : Position) :
    atScript ⟨position, rest⟩ = false := by
  obtain ⟨⟨c, parts, rfl, start, others⟩, more, rfl, stop⟩ := here
  have inside : ∀ d ∈ c :: parts, isNamePart d = true := by
    intro d hd
    rcases List.mem_cons.mp hd with rfl | hd
    · exact isNamePart_of_isNameStart start
    · exact others d hd
  unfold atScript
  simp only
  split
  · rename_i d behind found
    obtain ⟨written, shape, letters⟩ := Text.afterLetters?_eq_some_iff.mp found
    -- A character that ends the name of a script block also ends the name of the tag.
    by_contra ended
    simp only [Bool.not_eq_false, Bool.or_eq_true, beq_iff_eq, or_assoc] at ended
    obtain ⟨whole, _⟩ := Stops.cancel inside (isNamePart_of_lowered_script letters) stop
      (Stops.cons (isNamePart_of_ends ended) _) shape
    exact other (whole ▸ letters)
  · rfl

namespace Progress

theorem run_elements {written : List Element} {text : List Char} (h : ElementsWritten written text)
    (proper : ∀ element ∈ written, ∀ inner ∈ element.all, inner.Proper)
    (nesting : ∀ element ∈ written, element.levels ≤ depthLimit) (position : Position)
    (elements : List Element) :
    ∃ read, read.map Element.unplaced = written.map Element.unplaced ∧
      run ⟨⟨position, text⟩, [], elements⟩ = .ok (elements.reverse ++ read) := by
  induction h generalizing position elements with
  | @nil gap trivia =>
    have skipped : skipTrivia ⟨position, gap ++ []⟩ = .ok ⟨position.advance gap, []⟩ :=
      skipTrivia_append position trivia (Stops.nil _) (by simp)
    refine ⟨[], rfl, ?_⟩
    rw [← List.append_nil gap, run_of_trivia elements skipped rfl, List.append_nil]
    rfl
  | @cons element others gap text rest trivia first more ih =>
    have self := proper element (by simp) element element.self_mem_all
    have here := atTag_of_written first self.name rest
    obtain ⟨read, same, start⟩ := run_element first (proper element (by simp)) []
      (by simpa using nesting element (by simp)) (position.advance gap) rest elements
    obtain ⟨later, alike, done⟩ := ih (fun other member => proper other (by simp [member]))
      (fun other member => nesting other (by simp [member]))
      ((position.advance gap).advance text) (read :: elements)
    refine ⟨read :: later, by simp [same, alike], ?_⟩
    rw [run_of_trivia elements (here.skipTrivia_append trivia position) (here.skipTrivia_self _), start]
    rw [List.reverse_cons, List.append_assoc] at done
    exact done

end Progress

theorem find?_type_of_hasScriptKind {given : List Attribute} (kind : HasScriptKind given) :
    (given.reverse.find? fun a => Text.sameLetters a.name "type").bind Attribute.value =
      some scriptKind := by
  obtain ⟨before, chosen, after, rfl, name, value, last⟩ := kind
  have none : after.reverse.find? (fun a => Text.sameLetters a.name "type") = none := by
    simpa using last
  simp [List.find?_append, none, name, value]

section Script

variable {script : ScriptBlock} {block : List Char}

theorem atScript_append (written : script.Written block) (position : Position) (rest : List Char) :
    atScript ⟨position, block ++ rest⟩ = true := by
  cases written with
  | @mk given tag attributes closing gap opens wellFormed kind isWritten closes isGap =>
    let more := script.content.toList ++ (closing ++ (gap ++ '>' :: rest))
    obtain ⟨c, others, shape, ends⟩ := attributes_head isWritten (.inl ⟨more, rfl⟩)
    have found : Text.afterLetters? "script".toList (tag ++ (attributes ++ '>' :: more)) =
        some (c :: others) :=
      Text.afterLetters?_eq_some_iff.mpr ⟨tag, by rw [shape], opens⟩
    simp only [List.cons_append, List.append_assoc, List.nil_append, atScript]
    rw [found]
    simpa [or_assoc] using ends

theorem isTagName_of_lowered_script {name : List Char} (h : Text.lowered name = "script".toList) :
    IsTagName name := by
  have lower : Text.lowered "script".toList = "script".toList := by decide
  refine isTagName_of_lowered_eq (h.trans lower.symm) ⟨'s', "cript".toList, rfl, ?_, List.all_eq_true.mp ?_⟩
  · decide +kernel
  · decide +kernel

theorem atTag_of_script (written : script.Written block) (rest : List Char) :
    ∃ name, AtTag name (block ++ rest) := by
  cases written with
  | @mk given tag attributes closing gap opens wellFormed kind isWritten closes isGap =>
    refine ⟨tag, isTagName_of_lowered_script opens, _, by rw [List.cons_append, List.append_assoc], ?_⟩
    rw [List.append_assoc]
    exact stops_namePart_of_attributes isWritten (.inl ⟨_, rfl⟩)

theorem readScript_append (written : script.Written block)
    (clean : ¬ scriptEnd <:+: Text.lowered script.content.toList) (position : Position)
    (rest : List Char) :
    ∃ line, readScript ⟨position, block ++ rest⟩ =
      .ok (⟨script.content, line⟩, ⟨position.advance block, rest⟩) := by
  cases written with
  | @mk given tag attributes closing gap opens wellFormed kind isWritten closes isGap =>
    let content := script.content.toList
    let behind := gap ++ '>' :: rest
    have tagEnd : EndsTag ('>' :: (content ++ closing ++ behind)) := .inl ⟨_, rfl⟩
    have named := readName_append (position.after '<') (isTagName_of_lowered_script opens)
      (stops_namePart_of_attributes isWritten tagEnd)
    have read := readAttributes_append ((position.after '<').advance tag) wellFormed isWritten tagEnd
    have first : ¬ scriptEnd <:+: Text.lowered content ++ scriptEnd.dropLast :=
      Text.not_infix_append_dropLast (by decide) clean
    have cut : Text.cutAroundLetters? "</script".toList (content ++ closing ++ behind) =
        some (content, behind) :=
      Text.cutAroundLetters?_of_first behind (by decide) closes first
    have size : content.length + "</script".length = (content ++ closing).length := by
      rw [List.length_append, ← Text.length_lowered closing, closes]
      rfl
    have past (place : Position) : Cursor.skipBlanks ⟨place, behind⟩ = ⟨place.advance gap, '>' :: rest⟩ :=
      skipBlanks_append place isGap (Stops.cons (by decide) _)
    have shape : '<' :: (tag ++ (attributes ++ '>' :: (content ++ (closing ++ (gap ++ ['>']))))) ++
        rest = '<' :: (tag ++ (attributes ++ '>' :: (content ++ closing ++ behind))) := by
      simp [behind]
    let opened := (((position.after '<').advance tag).advance attributes).after '>'
    refine ⟨opened.line, ?_⟩
    rw [shape, readScript, expect_cons]
    simp only [Bind.bind, Except.bind, named, read, expect_cons, find?_type_of_hasScriptKind kind, cut,
      size, skip_append _ rfl, past]
    simp [Pure.pure, Except.pure, Position.advance_append, content, opened]

end Script

theorem skipTrivia_elements {written : List Element} {text : List Char}
    (h : ElementsWritten written text) (proper : ∀ element ∈ written, element.Proper)
    (position : Position) :
    ∃ later, skipTrivia ⟨position, text⟩ = .ok later ∧ skipTrivia later = .ok later ∧
      atScript later = false := by
  cases h with
  | nil trivia =>
    have skipped : skipTrivia ⟨position, text ++ []⟩ = .ok ⟨position.advance text, []⟩ :=
      skipTrivia_append position trivia (Stops.nil _) (by simp)
    rw [List.append_nil] at skipped
    exact ⟨_, skipped, rfl, rfl⟩
  | @cons element others gap text rest trivia first more =>
    have self := proper element (by simp)
    have here := atTag_of_written first self.name rest
    have other : Text.lowered element.tag.toList ≠ "script".toList := by
      intro same
      have letters : Text.sameLetters element.tag "script" = true := by
        rw [Text.sameLetters_iff, Text.lower, same]
        decide
      rw [self.notScript] at letters
      contradiction
    exact ⟨_, here.skipTrivia_append trivia position, here.skipTrivia_self _,
      here.atScript_eq_false other _⟩

theorem readDocument_plain {written : List Element} {text : List Char} (h : ElementsWritten written text)
    (proper : ∀ element ∈ written, element.Proper) :
    readDocument text = Progress.run ⟨.ofText text, [], []⟩ >>= fun read => .ok ⟨none, read⟩ := by
  obtain ⟨later, skipped, settled, notScript⟩ := skipTrivia_elements h proper .start
  have start : skipTrivia (.ofText text) = .ok later := skipped
  rw [Progress.run_of_trivia [] start settled, readDocument, start, ok_bind, notScript]
  rfl

theorem readDocument_scripted {script : ScriptBlock} {gap block : List Char} (trivia : Trivia gap)
    (first : script.Written block) (clean : ¬ scriptEnd <:+: Text.lowered script.content.toList)
    (rest : List Char) :
    ∃ line, readDocument (gap ++ (block ++ rest)) =
      Progress.run ⟨⟨(Position.start.advance gap).advance block, rest⟩, [], []⟩ >>= fun read =>
        .ok ⟨some ⟨script.content, line⟩, read⟩ := by
  obtain ⟨name, here⟩ := atTag_of_script first rest
  have skipped : skipTrivia (.ofText (gap ++ (block ++ rest))) =
      .ok ⟨Position.start.advance gap, block ++ rest⟩ := here.skipTrivia_append trivia .start
  obtain ⟨line, scriptRead⟩ := readScript_append first clean (Position.start.advance gap) rest
  refine ⟨line, ?_⟩
  rw [readDocument, skipped, ok_bind, atScript_append first, if_pos rfl, scriptRead]
  rfl

theorem readDocument_of_written {document : Document} {text : List Char}
    (wellFormed : document.WellFormed) (written : document.Written text) :
    ∃ read, readDocument text = .ok read ∧ read.unplaced = document.unplaced := by
  have proper : ∀ element ∈ document.elements, ∀ inner ∈ element.all, inner.Proper :=
    fun element member inner within =>
      wellFormed.proper inner (List.mem_flatMap.mpr ⟨element, member, within⟩)
  cases written with
  | plain absent elements =>
    have start := readDocument_plain elements
      (fun element member => proper element member element element.self_mem_all)
    obtain ⟨read, alike, done⟩ := Progress.run_elements elements proper wellFormed.nesting .start []
    have done : Progress.run ⟨.ofText text, [], []⟩ = .ok read := done
    refine ⟨⟨none, read⟩, ?_, by simp [Document.unplaced, absent, alike]⟩
    rw [start, done]
    rfl
  | @scripted script gap block rest present trivia first elements =>
    obtain ⟨line, start⟩ := readDocument_scripted trivia first (wellFormed.script script present) rest
    obtain ⟨read, alike, done⟩ := Progress.run_elements elements proper wellFormed.nesting
      ((Position.start.advance gap).advance block) []
    refine ⟨⟨some ⟨script.content, line⟩, read⟩, ?_, by simp [Document.unplaced, present, alike]⟩
    rw [start, done]
    rfl

end UiMarkup.Reader

namespace UiMarkup

/-- However a well-formed document is written, it is read, and read as that document. -/
theorem Document.parse_of_written {document : Document} {source : String}
    (wellFormed : document.WellFormed) (written : document.Written source.toList) :
    ∃ read, Document.parse source = .ok read ∧ read.unplaced = document.unplaced :=
  Reader.readDocument_of_written wellFormed written

theorem Document.parse_of_written_row :
    let row : Element := ⟨"Row", .start, [⟨"a", some "1&2", false⟩, ⟨"b", none, true⟩],
      [.text "hi there", .text "<", .element ⟨"BR", .start, [], []⟩]⟩
    let document : Document := ⟨some ⟨"x</b>", 1⟩, [row]⟩
    let source := "<SCRIPT type=\"text/customui\">x</b></Script >\n<!-- x -->" ++
      "<Row a = '1&#38;2' :b>\n hi  there<!---->&lt;<BR></ROW >"
    document.WellFormed ∧ document.Written source.toList ∧
      ∃ read, Document.parse source = .ok read ∧ read.unplaced = document.unplaced := by
  intro row document source
  have wellFormed : document.WellFormed := by decide +kernel
  have isComment : IsComment "<!-- x -->".toList := ⟨by decide, "<!-- x ".toList, rfl, by decide⟩
  have shortComment : IsComment "<!---->".toList := ⟨by decide, "<!--".toList, rfl, by decide⟩
  have script : (⟨"x</b>", 1⟩ : ScriptBlock).Written
      "<SCRIPT type=\"text/customui\">x</b></Script >".toList := by
    have quoted : QuotedValue "text/customui" "\"text/customui\"".toList :=
      @QuotedValue.mk _ '"' "text/customui".toList (.inl rfl) (Entity.spells_self (by decide) (by decide))
    have kind : (⟨"type", some "text/customui", false⟩ : Attribute).Written
        "type=\"text/customui\"".toList :=
      @Attribute.Written.valued _ _ [] [] _ rfl (by decide) (by decide) quoted
    exact @ScriptBlock.Written.mk _ [⟨"type", some "text/customui", false⟩] "SCRIPT".toList
      " type=\"text/customui\"".toList "</Script".toList [' '] (by decide) (by decide +kernel)
      ⟨[], _, [], rfl, by decide, rfl, by simp⟩
      (@AttributesWritten.cons _ _ [' '] _ [] (by decide) (by decide) kind (.nil (by decide)))
      (by decide) (by decide)
  have attributes : AttributesWritten row.attributes " a = '1&#38;2' :b".toList := by
    have spelled : Entity.Spells (· ≠ '\'') "1&2".toList "1&#38;2".toList :=
      .char (by decide) (by decide) (@Entity.Spells.entity _ '&' "#38".toList _ _
        (.decimal (by decide) (by decide)) (Entity.spells_self (by decide) (by decide)))
    have quoted : QuotedValue "1&2" "'1&#38;2'".toList :=
      @QuotedValue.mk _ '\'' _ (.inr rfl) spelled
    exact @AttributesWritten.cons _ _ [' '] "a = '1&#38;2'".toList " :b".toList (by decide) (by decide)
      (@Attribute.Written.valued _ _ [' '] [' '] _ rfl (by decide) (by decide) quoted)
      (@AttributesWritten.cons _ _ [' '] ":b".toList [] (by decide) (by decide) (.bare rfl)
        (.nil (by decide)))
  have content : Content.Written true row.children "\n hi  there<!---->&lt;<BR>".toList := by
    have br : (⟨"BR", .start, [], []⟩ : Element).Written "<BR>".toList :=
      @Element.Written.void _ [] (by decide) (.nil (by decide))
    exact @Content.Written.text _ _ "\n hi  there".toList "\n hi  there".toList _ (by decide)
      (Entity.spells_self (by decide) (by decide))
      (@Content.Written.comment _ _ "<!---->".toList _ shortComment
        (@Content.Written.text _ _ ['<'] "&lt;".toList _ (by decide)
          (@Entity.Spells.entity _ '<' "lt".toList _ _ (.ofTable (by decide)) .nil)
          (@Content.Written.element _ _ _ _ [] br .nil)))
  have element : row.Written "<Row a = '1&#38;2' :b>\n hi  there<!---->&lt;<BR></ROW >".toList := by
    simpa [row] using @Element.Written.enclosing row _ _ "ROW".toList [' '] (by decide) attributes content
      (by decide) (by decide)
  have gap : Trivia "\n<!-- x -->".toList :=
    @Trivia.comment ['\n'] _ [] (by decide) isComment (.blanks (by decide))
  have written : document.Written source.toList := by
    simpa [source] using @Document.Written.scripted document _ [] _ _ rfl (.blanks (by decide)) script
      (@ElementsWritten.cons row [] _ _ [] gap element (.nil (.blanks (by decide))))
  exact ⟨wellFormed, written, Document.parse_of_written wellFormed written⟩

end UiMarkup
