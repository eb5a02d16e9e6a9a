import UiMarkup.Proofs.Markup.Layout
import UiMarkup.Proofs.Markup.Soundness

namespace UiMarkup

namespace Entity

def escapeChar (c : Char) : List Char :=
  if c = '&' then "&amp;".toList
  else if c = '"' then "&quot;".toList
  else if c = '<' then "&lt;".toList
  else [c]

def escape (text : List Char) : List Char :=
  text.flatMap escapeChar

theorem spells_escape {plain : Char → Prop} (others : ∀ c, c ≠ '"' → c ≠ '<' → plain c)
    (text : List Char) : Spells plain text (escape text) := by
  induction text with
  | nil => exact .nil
  | cons c text ih =>
    rw [escape, List.flatMap_cons, ← escape]
    unfold escapeChar
    split
    · rename_i same
      subst same
      exact @Spells.entity _ '&' "amp".toList _ _ (.ofTable (by decide)) ih
    · rename_i other
      split
      · rename_i same
        subst same
        exact @Spells.entity _ '"' "quot".toList _ _ (.ofTable (by decide)) ih
      · rename_i quote
        split
        · rename_i same
          subst same
          exact @Spells.entity _ '<' "lt".toList _ _ (.ofTable (by decide)) ih
        · rename_i angle
          exact .char (others c quote angle) other ih

end Entity

def emptyComment : List Char := "<!---->".toList

theorem isComment_emptyComment : IsComment emptyComment :=
  ⟨by decide, "<!--".toList, rfl, by decide⟩

def Attribute.print (given : Attribute) : List Char :=
  match given.value with
  | none => given.writtenName
  | some value => given.writtenName ++ '=' :: '"' :: (Entity.escape value.toList ++ ['"'])

def printAttributes (given : List Attribute) : List Char :=
  given.flatMap fun a => ' ' :: a.print

mutual

def Element.print : Element → List Char
  | ⟨tag, _, attributes, children⟩ =>
    '<' :: (tag.toList ++ (printAttributes attributes ++
      if isVoid tag then ['/', '>']
      else '>' :: (Content.print true children ++ '<' :: '/' :: (tag.toList ++ ['>']))))

/-- The content of an element; where `free` is false it follows a text, and a comment separates it
from another one. -/
def Content.print : (free : Bool) → List (Content Element) → List Char
  | _, [] => []
  | true, .text text :: rest => Entity.escape text.toList ++ Content.print false rest
  | false, .text text :: rest =>
    emptyComment ++ (Entity.escape text.toList ++ Content.print false rest)
  | _, .element element :: rest => element.print ++ Content.print true rest

end

def scriptAttributes : List Attribute :=
  [⟨"type", some Reader.scriptKind, false⟩]

def ScriptBlock.print (script : ScriptBlock) : List Char :=
  '<' :: ("script".toList ++ (printAttributes scriptAttributes ++
    '>' :: (script.content.toList ++ (scriptEnd ++ ['>']))))

def Document.print (document : Document) : String :=
  String.ofList ((document.script.elim [] ScriptBlock.print) ++ document.elements.flatMap Element.print)

theorem Attribute.written_print (given : Attribute) : given.Written given.print := by
  cases value : given.value with
  | none =>
    simp only [Attribute.print, value]
    exact .bare value
  | some text =>
    simp only [Attribute.print, value]
    have quoted : QuotedValue text ('"' :: Entity.escape text.toList ++ ['"']) :=
      .mk (.inl rfl) (Entity.spells_escape (fun c quote _ => quote) _)
    exact @Attribute.Written.valued given text [] [] _ value (by decide) (by decide) quoted

theorem attributesWritten_print (given : List Attribute) :
    AttributesWritten given (printAttributes given) := by
  induction given with
  | nil => exact .nil (by decide)
  | cons first others ih =>
    exact @AttributesWritten.cons first others [' '] first.print _ (by decide) (by decide)
      first.written_print ih

mutual

theorem Element.written_print (element : Element) (proper : ∀ inner ∈ element.all, inner.Proper) :
    element.Written element.print :=
  match element with
  | ⟨tag, position, attributes, children⟩ => by
    have self := proper _ (Element.self_mem_all _)
    have given := attributesWritten_print attributes
    rw [Element.print]
    by_cases void : isVoid tag = true
    · rw [if_pos void]
      exact .complete (self.void void) given
    · rw [if_neg void]
      have content := Content.written_print true children (Element.proper_content proper) self.texts
      exact @Element.Written.enclosing ⟨tag, position, attributes, children⟩ _ _ _ []
        (by simpa using void) given content rfl (by decide)

theorem Content.written_print (free : Bool) (content : List (Content Element))
    (proper : ∀ inner ∈ Content.all content, inner.Proper)
    (texts : ∀ text, .text text ∈ content → text.toList ≠ [] ∧ Text.SingleSpaced text.toList) :
    Content.Written free content (Content.print free content) :=
  match free, content with
  | _, [] => by
    rw [Content.print]
    exact .nil
  | true, .text text :: rest => by
    have collapsed := Text.collapse_eq_self_iff.mpr (texts text (by simp)).2
    have more := Content.written_print false rest proper
      (fun other member => texts other (by simp [member]))
    rw [Content.print]
    exact .text collapsed (Entity.spells_escape (fun c _ angle => angle) _) more
  | false, .text text :: rest => by
    have collapsed := Text.collapse_eq_self_iff.mpr (texts text (by simp)).2
    have more := Content.written_print false rest proper
      (fun other member => texts other (by simp [member]))
    rw [Content.print]
    exact .comment isComment_emptyComment
      (.text collapsed (Entity.spells_escape (fun c _ angle => angle) _) more)
  | _, .element element :: rest => by
    simp only [Content.all, List.mem_append] at proper
    have first := Element.written_print element (fun inner member => proper inner (.inl member))
    have more := Content.written_print true rest (fun inner member => proper inner (.inr member))
      (fun other member => texts other (by simp [member]))
    rw [Content.print]
    exact .element first more

end

theorem ScriptBlock.written_print (script : ScriptBlock) : script.Written script.print := by
  have kind : HasScriptKind scriptAttributes := ⟨[], _, [], rfl, by decide, rfl, by simp⟩
  exact @ScriptBlock.Written.mk script scriptAttributes "script".toList _ scriptEnd [] (by decide)
    (by decide +kernel) kind (attributesWritten_print _) (by decide) (by decide)

theorem elementsWritten_print {elements : List Element}
    (proper : ∀ element ∈ elements, ∀ inner ∈ element.all, inner.Proper) :
    ElementsWritten elements (elements.flatMap Element.print) := by
  induction elements with
  | nil => exact .nil (.blanks (by decide))
  | cons first others ih =>
    have written := first.written_print (proper first (by simp))
    have more := ih (fun other member => proper other (by simp [member]))
    exact @ElementsWritten.cons first others [] _ _ (.blanks (by decide)) written more

theorem Document.written_print {document : Document} (wellFormed : document.WellFormed) :
    document.Written document.print.toList := by
  have elements := elementsWritten_print fun element member inner within =>
    wellFormed.proper inner (List.mem_flatMap.mpr ⟨element, member, within⟩)
  rw [Document.print, String.toList_ofList]
  cases present : document.script with
  | none => exact .plain present elements
  | some script =>
    exact @Document.Written.scripted document script [] _ _ present (.blanks (by decide))
      script.written_print elements

mutual

theorem Element.print_unplaced (element : Element) : element.unplaced.print = element.print :=
  match element with
  | ⟨tag, position, attributes, children⟩ => by
    rw [Element.unplaced, Element.print, Element.print, Content.print_unplaced true children]

theorem Content.print_unplaced (free : Bool) (content : List (Content Element)) :
    Content.print free (Content.unplaced content) = Content.print free content :=
  match free, content with
  | _, [] => by rw [Content.unplaced]
  | true, .text text :: rest => by
    rw [Content.unplaced, Content.print, Content.print, Content.print_unplaced false rest]
  | false, .text text :: rest => by
    rw [Content.unplaced, Content.print, Content.print, Content.print_unplaced false rest]
  | _, .element element :: rest => by
    rw [Content.unplaced, Content.print, Content.print, Element.print_unplaced element,
      Content.print_unplaced true rest]

end

theorem Document.print_unplaced (document : Document) : document.unplaced.print = document.print := by
  obtain ⟨script, elements⟩ := document
  have scripts : (script.map fun s => { s with line := 1 }).elim [] ScriptBlock.print =
      script.elim [] ScriptBlock.print := by
    cases script <;> rfl
  have all : (elements.map Element.unplaced).flatMap Element.print =
      elements.flatMap Element.print := by
    simp only [List.flatMap_map, Element.print_unplaced]
  rw [Document.print, Document.print, Document.unplaced, scripts, all]

theorem Document.print_congr {left right : Document} (same : left.unplaced = right.unplaced) :
    left.print = right.print := by
  rw [← left.print_unplaced, same, right.print_unplaced]

theorem Document.parse_print {document : Document} (wellFormed : document.WellFormed) :
    ∃ again, Document.parse document.print = .ok again ∧ again.unplaced = document.unplaced :=
  Reader.readDocument_of_written wellFormed (Document.written_print wellFormed)

/-- What is read is well formed. Its print is read as the same document, places apart, and two texts
have the same print only if the same document is read from them. -/
theorem Document.wellFormed_of_parse {source : String} {document : Document}
    (h : Document.parse source = .ok document) :
    document.WellFormed ∧
      (∃ again, Document.parse document.print = .ok again ∧ again.unplaced = document.unplaced ∧
        again.print = document.print) ∧
      ∀ other read, Document.parse other = .ok read →
        (read.print = document.print ↔ read.unplaced = document.unplaced) := by
  have wellFormed := Reader.wellFormed_of_readDocument h
  obtain ⟨again, parsed, alike⟩ := Document.parse_print wellFormed
  refine ⟨wellFormed, ⟨again, parsed, alike, Document.print_congr alike⟩, ?_⟩
  intro other read otherParsed
  constructor
  · intro samePrint
    obtain ⟨reread, parsedAgain, alikeAgain⟩ :=
      Document.parse_print (Reader.wellFormed_of_readDocument otherParsed)
    rw [samePrint, parsed] at parsedAgain
    cases parsedAgain
    rw [← alikeAgain, alike]
  · exact Document.print_congr

theorem Document.wellFormed_of_parse_row :
    ∃ document, Document.parse "<Row a=x :b>\n1 &lt;  2<!-- -->&amp;<br></ROW>" = .ok document ∧
      document.WellFormed ∧
      document.print = "<Row a=\"x\" :b>1 &lt; 2<!---->&amp;<br/></Row>" ∧
      ∃ again, Document.parse document.print = .ok again ∧ again.unplaced = document.unplaced := by
  have printed : (Document.parse "<Row a=x :b>\n1 &lt;  2<!-- -->&amp;<br></ROW>").toOption.map
      Document.print = some "<Row a=\"x\" :b>1 &lt; 2<!---->&amp;<br/></Row>" := by
    decide +kernel
  cases parsed : Document.parse "<Row a=x :b>\n1 &lt;  2<!-- -->&amp;<br></ROW>" with
  | error e => simp [parsed, Except.toOption] at printed
  | ok document =>
    simp only [parsed, Except.toOption, Option.map_some, Option.some.injEq] at printed
    obtain ⟨wellFormed, ⟨again, read, alike, _⟩, _⟩ := Document.wellFormed_of_parse parsed
    exact ⟨document, rfl, wellFormed, printed, again, read, alike⟩

end UiMarkup
