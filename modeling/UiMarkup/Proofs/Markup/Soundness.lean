import UiMarkup.Proofs.Markup.Steps

namespace UiMarkup

structure Element.Fits (depth : Nat) (element : Element) : Prop where
  proper : ∀ inner ∈ element.all, inner.Proper
  room : depth + element.levels ≤ Reader.depthLimit

namespace Reader

structure Frame.Sound (depth : Nat) (frame : Frame) : Prop where
  name : IsTagName frame.tag.toList
  notScript : Text.sameLetters frame.tag "script" = false
  attributes : ∀ given ∈ frame.attributes, given.WellFormed
  notVoid : isVoid frame.tag = false
  texts : ∀ text, .text text ∈ frame.children → text.toList ≠ [] ∧ Text.SingleSpaced text.toList
  children : ∀ child, .element child ∈ frame.children → child.Fits (depth + 1)
  room : depth < depthLimit

theorem Frame.Sound.add_element {depth : Nat} {frame : Frame} {element : Element}
    (sound : frame.Sound depth) (fits : element.Fits (depth + 1)) :
    (frame.add (.element element)).Sound depth := by
  refine { sound with texts := ?_, children := ?_ }
  · intro text member
    exact sound.texts text (by simpa [Frame.add] using member)
  · intro child member
    simp only [Frame.add, List.mem_cons, Content.element.injEq] at member
    rcases member with rfl | member
    · exact fits
    · exact sound.children child member

theorem Frame.Sound.add_text {depth : Nat} {frame : Frame} {text : String}
    (sound : frame.Sound depth) (filled : text.toList ≠ []) (spaced : Text.SingleSpaced text.toList) :
    (frame.add (.text text)).Sound depth := by
  refine { sound with texts := ?_, children := ?_ }
  · intro other member
    simp only [Frame.add, List.mem_cons, Content.text.injEq] at member
    rcases member with rfl | member
    · exact ⟨filled, spaced⟩
    · exact sound.texts other member
  · intro child member
    exact sound.children child (by simpa [Frame.add] using member)

theorem Frame.Sound.close {depth : Nat} {frame : Frame} (sound : frame.Sound depth) :
    frame.close.Fits depth := by
  have children (child : Element) (member : .element child ∈ frame.close.children) :
      child.Fits (depth + 1) :=
    sound.children child (by simpa [Frame.close] using member)
  constructor
  · intro inner member
    rcases Element.mem_all_iff.mp member with rfl | member
    · exact ⟨sound.name, sound.notScript, sound.attributes, by simp [Frame.close, sound.notVoid],
        fun text within => sound.texts text (by simpa [Frame.close] using within)⟩
    · obtain ⟨child, within, inside⟩ := Content.mem_all_iff.mp member
      exact (children child within).proper inner inside
  · have room := sound.room
    have levels : Content.levels frame.close.children ≤ depthLimit - (depth + 1) := by
      refine Content.levels_le_iff.mpr fun child member => ?_
      have bound := (children child member).room
      omega
    rw [Element.levels_eq]
    omega

/-- Each open element counts the ones around it. -/
def FramesSound : List Frame → Prop
  | [] => True
  | frame :: outer => frame.Sound outer.length ∧ FramesSound outer

namespace Progress

structure Sound (progress : Progress) : Prop where
  frames : FramesSound progress.frames
  elements : ∀ element ∈ progress.elements, element.Fits 0

variable {progress next : Progress}

theorem Sound.add {element : Element} (sound : progress.Sound)
    (fits : element.Fits progress.frames.length) : (progress.add element).Sound := by
  obtain ⟨cursor, frames, elements⟩ := progress
  cases frames with
  | nil =>
    refine ⟨sound.frames, fun other member => ?_⟩
    rcases List.mem_cons.mp member with rfl | member
    · exact fits
    · exact sound.elements other member
  | cons frame outer =>
    exact ⟨⟨sound.frames.1.add_element fits, sound.frames.2⟩, sound.elements⟩

theorem Sound.opened {start later : Cursor} {opening : Opening} (sound : progress.Sound)
    (opens : Opens progress.frames.length start opening later) :
    (progress.opened opening later).Sound := by
  have room := opens.room
  unfold Progress.opened
  split
  · have moved : (progress.moveTo later).Sound := ⟨sound.frames, sound.elements⟩
    refine moved.add ⟨?_, ?_⟩
    · intro inner member
      simp only [Element.all, Content.all, List.mem_singleton] at member
      subst member
      exact ⟨opens.name, opens.notScript, opens.attributes, fun _ => rfl, by simp⟩
    · simp only [moveTo, Element.levels, Content.levels]
      omega
  · rename_i stays
    have notVoid := opens.notVoid (by simpa using stays)
    exact ⟨⟨⟨opens.name, opens.notScript, opens.attributes, notVoid, by simp, by simp, room⟩,
      sound.frames⟩, sound.elements⟩

theorem Sound.closed {frame : Frame} {outer : List Frame} (sound : progress.Sound)
    (inside : progress.frames = frame :: outer) (later : Cursor) :
    (progress.closed frame outer later).Sound := by
  have frames := sound.frames
  rw [inside] at frames
  have left : Sound { progress with cursor := later, frames := outer } := ⟨frames.2, sound.elements⟩
  exact left.add frames.1.close

theorem Sound.addText {frame : Frame} {outer : List Frame} (sound : progress.Sound)
    (inside : progress.frames = frame :: outer) : (progress.addText frame outer).Sound := by
  have frames := sound.frames
  rw [inside] at frames
  unfold Progress.addText
  simp only
  split
  · exact ⟨sound.frames, sound.elements⟩
  · rename_i filled
    refine ⟨⟨frames.1.add_text ?_ ?_, frames.2⟩, sound.elements⟩
    · simpa using filled
    · rw [String.toList_ofList]
      exact Text.collapse_eq_self_iff.mp (Text.collapse_collapse _)

theorem Sound.step (sound : progress.Sound) (h : Steps progress next) : next.Sound := by
  cases h with
  | opening gap opens => exact sound.opened opens
  | closing inside reads => exact sound.closed inside _
  | text inside reads => exact sound.addText inside
  | comment inside reads => exact ⟨sound.frames, sound.elements⟩

theorem fits_of_run {cursor : Cursor} {elements : List Element}
    (h : run ⟨cursor, [], []⟩ = .ok elements) : ∀ element ∈ elements, element.Fits 0 := by
  have start : Sound ⟨cursor, [], []⟩ := ⟨trivial, by simp⟩
  obtain ⟨last, sound, ends⟩ := finish_of_run (fun _ _ sound step => sound.step step) start h
  unfold finish at ends
  split at ends
  · cases ends
    exact fun element member => sound.elements element (List.mem_reverse.mp member)
  · cases ends

end Progress

theorem readScript_ok {cursor later : Cursor} {script : ScriptBlock}
    (h : readScript cursor = .ok (script, later)) :
    ¬ scriptEnd <:+: Text.lowered script.content.toList := by
  unfold readScript at h
  obtain ⟨opened, angle, h⟩ := ok_of_bind h
  obtain ⟨⟨tag, named⟩, name, h⟩ := ok_of_bind h
  obtain ⟨⟨given, last⟩, attributes, h⟩ := ok_of_bind h
  obtain ⟨inside, angle, h⟩ := ok_of_bind h
  simp only at h
  split at h
  · simp [throw, throwThe, MonadExceptOf.throw, Bind.bind, Except.bind] at h
  simp only [Pure.pure, Except.pure, Bind.bind, Except.bind] at h
  split at h
  · simp [failAt] at h
  · rename_i content behind found
    obtain ⟨later, angle, done⟩ := ok_of_bind h
    cases done
    rw [String.toList_ofList]
    exact (Text.cutAroundLetters?_eq_some found).2 (by decide)

theorem wellFormed_of_fits {script : Option ScriptBlock} {elements : List Element}
    (clean : ∀ s ∈ script, ¬ scriptEnd <:+: Text.lowered s.content.toList)
    (fits : ∀ element ∈ elements, element.Fits 0) : (⟨script, elements⟩ : Document).WellFormed := by
  refine ⟨clean, ?_, ?_⟩
  · intro inner member
    obtain ⟨element, within, inside⟩ := List.mem_flatMap.mp member
    exact (fits element within).proper inner inside
  · intro element member
    simpa using (fits element member).room

theorem wellFormed_of_readDocument {text : List Char} {document : Document}
    (h : readDocument text = .ok document) : document.WellFormed := by
  unfold readDocument at h
  obtain ⟨cursor, trivia, h⟩ := ok_of_bind h
  split at h
  · obtain ⟨⟨script, later⟩, block, h⟩ := ok_of_bind h
    obtain ⟨elements, run, done⟩ := ok_of_bind h
    cases done
    refine wellFormed_of_fits ?_ (Progress.fits_of_run run)
    intro s same
    cases same
    exact readScript_ok block
  · obtain ⟨elements, run, done⟩ := ok_of_bind h
    cases done
    exact wellFormed_of_fits (by simp) (Progress.fits_of_run run)

end Reader

end UiMarkup
