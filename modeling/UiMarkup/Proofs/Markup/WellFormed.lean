import Mathlib.Data.List.Infix
import Mathlib.Tactic.MkIffOfInductiveProp
import UiMarkup.Markup.Reader
import UiMarkup.Proofs.Text.Spacing

namespace UiMarkup

mutual

def Element.all : Element → List Element
  | ⟨tag, position, attributes, children⟩ =>
    ⟨tag, position, attributes, children⟩ :: Content.all children

def Content.all : List (Content Element) → List Element
  | [] => []
  | .text _ :: rest => Content.all rest
  | .element element :: rest => element.all ++ Content.all rest

end

mutual

def Element.levels : Element → Nat
  | ⟨_, _, _, children⟩ => Content.levels children + 1

def Content.levels : List (Content Element) → Nat
  | [] => 0
  | .text _ :: rest => Content.levels rest
  | .element element :: rest => max element.levels (Content.levels rest)

end

mutual

def Element.unplaced : Element → Element
  | ⟨tag, _, attributes, children⟩ => ⟨tag, .start, attributes, Content.unplaced children⟩

def Content.unplaced : List (Content Element) → List (Content Element)
  | [] => []
  | .text text :: rest => .text text :: Content.unplaced rest
  | .element element :: rest => .element element.unplaced :: Content.unplaced rest

end

theorem Element.self_mem_all (element : Element) : element ∈ element.all := by
  cases element
  simp [Element.all]

theorem Content.mem_all_iff {content : List (Content Element)} {element : Element} :
    element ∈ Content.all content ↔ ∃ child, .element child ∈ content ∧ element ∈ child.all := by
  induction content with
  | nil => simp [Content.all]
  | cons first rest ih => cases first <;> simp [Content.all, ih, or_and_right, exists_or]

theorem Element.all_eq (element : Element) : element.all = element :: Content.all element.children := by
  cases element
  rw [Element.all]

theorem Element.mem_all_iff {outer element : Element} :
    element ∈ outer.all ↔ element = outer ∨ element ∈ Content.all outer.children := by
  cases outer
  simp [Element.all]

theorem Element.levels_eq (element : Element) :
    element.levels = Content.levels element.children + 1 := by
  cases element
  rfl

theorem Content.levels_le_iff {content : List (Content Element)} {bound : Nat} :
    Content.levels content ≤ bound ↔ ∀ child, .element child ∈ content → child.levels ≤ bound := by
  induction content with
  | nil => simp [Content.levels]
  | cons first rest ih =>
    cases first with
    | text => simp [Content.levels, ih]
    | element child =>
      simp only [Content.levels, Nat.max_le, ih, List.mem_cons, Content.element.injEq, forall_eq_or_imp]

theorem Element.unplaced_eq (element : Element) : element.unplaced =
    ⟨element.tag, .start, element.attributes, Content.unplaced element.children⟩ := by
  cases element
  rfl

namespace Document

def all (document : Document) : List Element :=
  document.elements.flatMap Element.all

def unplaced (document : Document) : Document :=
  ⟨document.script.map fun script => { script with line := 1 }, document.elements.map Element.unplaced⟩

end Document

def IsTagName (name : List Char) : Prop :=
  ∃ c rest, name = c :: rest ∧ Reader.isNameStart c = true ∧ ∀ d ∈ rest, Reader.isNamePart d = true

/-- An attribute that can be written: its name has no characters that would end it, and only the
name of a binding starts with a colon. -/
@[mk_iff]
structure Attribute.WellFormed (given : Attribute) : Prop where
  filled : given.name.toList ≠ []
  parts : ∀ c ∈ given.name.toList, Reader.isAttributePart c = true
  colon : given.name.toList.head? = some ':' → given.binding = true

/-- What holds of every single element: its tag is a name other than `script`, its attributes can be
written, a void element is empty, and texts in it are collapsed and not empty. -/
@[mk_iff]
structure Element.Proper (element : Element) : Prop where
  name : IsTagName element.tag.toList
  notScript : Text.sameLetters element.tag "script" = false
  attributes : ∀ given ∈ element.attributes, given.WellFormed
  void : isVoid element.tag = true → element.children = []
  texts : ∀ text, .text text ∈ element.children → text.toList ≠ [] ∧ Text.SingleSpaced text.toList

def scriptEnd : List Char := "</script".toList

@[mk_iff]
structure Document.WellFormed (document : Document) : Prop where
  script : ∀ script ∈ document.script, ¬ scriptEnd <:+: Text.lowered script.content.toList
  proper : ∀ element ∈ document.all, element.Proper
  nesting : ∀ element ∈ document.elements, element.levels ≤ Reader.depthLimit

section Decidable

instance (name : List Char) : Decidable (IsTagName name) :=
  match name with
  | [] => isFalse (by simp [IsTagName])
  | c :: rest =>
    decidable_of_iff (Reader.isNameStart c = true ∧ rest.all Reader.isNamePart = true)
      (by simp [IsTagName])

instance (given : Attribute) : Decidable given.WellFormed :=
  have := List.decidableBAll (Reader.isAttributePart · = true) given.name.toList
  decidable_of_iff' _ (Attribute.wellFormed_iff given)

instance Content.decidableTexts (good : String → Prop) [DecidablePred good] :
    (content : List (Content Element)) → Decidable (∀ text, .text text ∈ content → good text)
  | [] => isTrue (by simp)
  | .element _ :: rest =>
    have := Content.decidableTexts good rest
    decidable_of_iff (∀ text, .text text ∈ rest → good text) (by simp)
  | .text first :: rest =>
    have := Content.decidableTexts good rest
    decidable_of_iff (good first ∧ ∀ text, .text text ∈ rest → good text) (by simp)

instance (text : List Char) : Decidable (Text.SingleSpaced text) :=
  decidable_of_iff _ Text.collapse_eq_self_iff

instance (element : Element) : Decidable element.Proper :=
  decidable_of_iff' _ (Element.proper_iff element)

instance (document : Document) : Decidable document.WellFormed :=
  decidable_of_iff' _ (Document.wellFormed_iff document)

end Decidable

theorem Element.proper_content {element : Element} (h : ∀ inner ∈ element.all, inner.Proper) :
    ∀ inner ∈ Content.all element.children, inner.Proper :=
  fun inner member => h inner (Element.mem_all_iff.mpr (.inr member))

end UiMarkup
