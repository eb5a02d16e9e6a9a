import UiMarkup.Proofs.Component.Shape

namespace UiMarkup

namespace Defaults

def tags : List String := [
  "div", "section", "main", "header", "footer", "nav", "article", "aside", "li", "br", "ul", "ol",
  "p", "span", "label", "small", "h1", "h2", "h3", "h4", "h5", "h6", "b", "strong", "i", "em",
  "button", "a", "input", "textarea", "img", "select", "option", "progress", "hr"]

theorem isSome_component?_iff (tag : String) (attributes : Fields String) :
    (component? tag attributes).isSome = true ↔ tag ∈ tags := by
  constructor
  · intro made
    unfold component? at made
    split at made
    all_goals first
      | decide
      | cases made
  · intro among
    have all : (tags.all fun tag => (component? tag attributes).isSome) = true := rfl
    exact List.all_eq_true.mp all tag among

end Defaults

/-- A tag whose letter case does not matter: a custom tag, one with an underscore, or that of a usual
element. -/
inductive Registry.IgnoresCase (registry : Registry) (tag : String) : Prop
  | custom (registered : registry.contains tag = true)
  | intern (underscore : (Text.lower tag).toList.head? = some '_')
  | usual (among : Text.lower tag ∈ Defaults.tags)

inductive TagsAlike (registry : Registry) (tag : String) : String → Prop
  | same : TagsAlike registry tag tag
  | letters {other : String} (ignores : registry.IgnoresCase tag)
      (letters : Text.lower tag = Text.lower other) : TagsAlike registry tag other

inductive Attribute.Alike (given : Attribute) : Attribute → Prop
  | same : Attribute.Alike given given
  | letters {other : Attribute} (static : given.binding = false) (alsoStatic : other.binding = false)
      (value : given.value = other.value) (letters : Text.lower given.name = Text.lower other.name) :
      Attribute.Alike given other

mutual

inductive Element.Alike (registry : Registry) : Element → Element → Prop
  | intro {tag other : String} {position place : Position} {attributes others : List Attribute}
      {children inner : List (Content Element)} (tags : TagsAlike registry tag other)
      (given : List.Forall₂ Attribute.Alike attributes others)
      (inside : Content.Alike registry children inner) :
      Element.Alike registry ⟨tag, position, attributes, children⟩ ⟨other, place, others, inner⟩

inductive Content.Alike (registry : Registry) :
    List (Content Element) → List (Content Element) → Prop
  | nil : Content.Alike registry [] []
  | element {left right : Element} {rest others : List (Content Element)}
      (first : Element.Alike registry left right) (more : Content.Alike registry rest others) :
      Content.Alike registry (.element left :: rest) (.element right :: others)
  | text {rest others : List (Content Element)} (text : String)
      (more : Content.Alike registry rest others) :
      Content.Alike registry (.text text :: rest) (.text text :: others)

end

namespace Resolution

variable {surroundings : Surroundings} {aliases : Aliases} {tag other : String}

theorem resolve_of_custom {factory : Factory} (found : surroundings.registry.factory? tag = some factory)
    (attributes : Fields String) :
    resolve surroundings aliases (.ofTag tag) attributes = pure (factory attributes, .custom) := by
  rw [← QualifiedTag.written_ofTag tag] at found
  simp only [resolve, found]

theorem head_of_usual (among : Text.lower tag ∈ Defaults.tags) :
    tag.toList.head? ≠ some '$' ∧ tag.toList.head? ≠ some '_' := by
  have heads : ∀ usual ∈ Defaults.tags,
      usual.toList.head? ≠ some '$' ∧ usual.toList.head? ≠ some '_' := by
    decide
  obtain ⟨noDollar, noUnderscore⟩ := heads (Text.lower tag) among
  exact ⟨Text.head?_ne_of_lower rfl noDollar, Text.head?_ne_of_lower rfl noUnderscore⟩

theorem resolve_of_usual {attributes : Fields String} {node : Node}
    (unregistered : surroundings.registry.factory? tag = none)
    (made : Defaults.component? (Text.lower tag) attributes = some node) :
    resolve surroundings aliases (.ofTag tag) attributes = pure (node, .usual) := by
  have among : Text.lower tag ∈ Defaults.tags :=
    (Defaults.isSome_component?_iff _ attributes).mp (by rw [made]; rfl)
  obtain ⟨noDollar, noUnderscore⟩ := head_of_usual among
  rw [resolve_of_unmarked (QualifiedTag.ofTag_of_head noDollar) noUnderscore unregistered, plain, made]
  rfl

theorem resolve_of_alike (alike : TagsAlike surroundings.registry tag other)
    (attributes : Fields String) :
    resolve surroundings aliases (.ofTag tag) attributes =
      resolve surroundings aliases (.ofTag other) attributes := by
  cases alike with
  | same => rfl
  | letters ignores letters =>
    have factory : surroundings.registry.factory? tag = surroundings.registry.factory? other := by
      rw [Registry.factory?, Registry.factory?, letters]
    -- a custom tag comes first, whichever of the reasons for ignoring case is given
    cases found : surroundings.registry.factory? tag with
    | some made =>
      rw [resolve_of_custom found, resolve_of_custom (factory.symm.trans found)]
    | none =>
      have otherwise := factory.symm.trans found
      cases ignores with
      | custom registered =>
        rw [Registry.contains, found] at registered
        cases registered
      | intern underscore =>
        obtain ⟨_, lowered⟩ := List.head?_eq_some_iff.mp underscore
        obtain ⟨name, starts⟩ := Text.eq_underscore_of_lower lowered
        obtain ⟨otherName, alsoStarts⟩ := Text.eq_underscore_of_lower (letters ▸ lowered)
        rw [Text.lower_of_underscore starts, Text.lower_of_underscore alsoStarts,
          String.append_right_inj] at letters
        rw [resolve_of_underscore starts found, resolve_of_underscore alsoStarts otherwise, letters]
      | usual among =>
        obtain ⟨node, made⟩ := Option.isSome_iff_exists.mp
          ((Defaults.isSome_component?_iff _ attributes).mpr among)
        rw [resolve_of_usual found made, resolve_of_usual otherwise (letters ▸ made)]

end Resolution

namespace Assembly

section Attributes

variable {vars : Variables} {origin : Origin}

theorem expanded_of_alike {given other : Attribute} (alike : given.Alike other) :
    expanded vars given = expanded vars other := by
  cases alike with
  | same => rfl
  | letters static alsoStatic value letters => simp only [expanded, static, alsoStatic, value]

theorem attributeFields_of_alike {left right : List Attribute}
    (alike : List.Forall₂ Attribute.Alike left right) :
    attributeFields vars left = attributeFields vars right := by
  unfold attributeFields
  congr 1
  induction alike with
  | nil => rfl
  | @cons given other rest others first more ih =>
    have value := @expanded_of_alike vars _ _ first
    cases first with
    | same =>
      cases static : given.binding with
      | true => simpa [static] using ih
      | false => simpa [static] using ih
    | letters static alsoStatic _ letters => simpa [static, alsoStatic, letters, value] using ih

theorem applyAttribute_of_alike {given other : Attribute} (alike : given.Alike other) (node : Node) :
    applyAttribute vars origin node given = applyAttribute vars origin node other := by
  have value := @expanded_of_alike vars _ _ alike
  cases alike with
  | same => rfl
  | letters static alsoStatic _ letters => simp [applyAttribute, static, alsoStatic, letters, value]

theorem applyAttributes_of_alike {left right : List Attribute}
    (alike : List.Forall₂ Attribute.Alike left right) (node : Node) :
    applyAttributes vars origin node left = applyAttributes vars origin node right := by
  induction alike generalizing node with
  | nil => rfl
  | cons first _ ih =>
    rw [applyAttributes, applyAttributes, applyAttribute_of_alike first]
    simp only [ih]

end Attributes

section Build

variable {surroundings : Surroundings} {scope : Scope}

mutual

theorem build_of_alike {left right : Element}
    (alike : Element.Alike surroundings.registry left right) :
    build surroundings scope left = build surroundings scope right :=
  match alike with
  | .intro tags given inside => by
    rw [build, build]
    simp only [attributeFields_of_alike given, Resolution.resolve_of_alike tags,
      applyAttributes_of_alike given, buildContents_of_alike inside]

theorem buildContents_of_alike {textBearing : Bool} {left right : List (Content Element)}
    (alike : Content.Alike surroundings.registry left right) :
    buildContents surroundings scope textBearing left =
      buildContents surroundings scope textBearing right :=
  match alike with
  | .nil => rfl
  | .element first more => by
    rw [buildContents, buildContents, build_of_alike first, buildContents_of_alike more]
  | .text text more => by
    rw [buildContents, buildContents, buildContents_of_alike more]

end

end Build

/-- Element lists that differ only in letter case that does not matter are built alike: they fail
alike and with the same error, or have the same components, and they give the same warnings. -/
theorem buildAll_of_alike {surroundings : Surroundings} {left right : List Element}
    (alike : List.Forall₂ (Element.Alike surroundings.registry) left right) (scope : Scope) :
    buildAll surroundings scope left = buildAll surroundings scope right := by
  induction alike with
  | nil => rfl
  | cons first _ ih => rw [buildAll, buildAll, build_of_alike first, ih]

/-- A usual element with an id that is given twice, around a custom tag and one with an underscore:
once in capitals, and once in small letters. -/
theorem buildAll_of_alike_cards :
    let registry := Registry.empty.register "card"
      (TagRecipe.make ⟨"card", some "Card", false, [], [("kind", "Kind")], false⟩)
    let surroundings : Surroundings := ⟨registry, fun _ => .directory, none⟩
    let card (tag name : String) : Element :=
      ⟨tag, ⟨1, 9⟩, [⟨name, some "k", false⟩, ⟨"maxSize", some "n", true⟩], []⟩
    let anchor (tag name : String) : Element := ⟨tag, ⟨1, 30⟩, [⟨name, some "Slot", false⟩], []⟩
    let group (tag name again : String) (children : List (Content Element)) : Element :=
      ⟨tag, ⟨1, 1⟩, [⟨name, some "a", false⟩, ⟨again, some "b", false⟩], children⟩
    let left := [group "DIV" "Id" "iD"
      [.element (card "Card" "KIND"), .text "Hi", .element (anchor "_ANCHOR" "ID")]]
    let right := [group "div" "id" "id"
      [.element (card "card" "kind"), .text "Hi", .element (anchor "_anchor" "id")]]
    List.Forall₂ (Element.Alike registry) left right ∧
      (buildAll surroundings .empty left).result.toOption.map (List.map Node.render) =
        some ["Group #b \x7b Card \x7b Kind: \"k\"; MaxSize: n; \x7d " ++
          "Label \x7b Text: \"Hi\"; \x7d #Slot \x7b \x7d \x7d"] ∧
      buildAll surroundings .empty left = buildAll surroundings .empty right := by
  intro registry surroundings card anchor group left right
  have cards : Element.Alike registry (card "Card" "KIND") (card "card" "kind") :=
    .intro (.letters (.custom (by decide +kernel)) (by decide +kernel))
      (.cons (.letters rfl rfl rfl (by decide +kernel)) (.cons .same .nil)) .nil
  have anchors : Element.Alike registry (anchor "_ANCHOR" "ID") (anchor "_anchor" "id") :=
    .intro (.letters (.intern (by decide +kernel)) (by decide +kernel))
      (.cons (.letters rfl rfl rfl (by decide +kernel)) .nil) .nil
  have groups : List.Forall₂ (Element.Alike registry) left right :=
    .cons (.intro (.letters (.usual (by decide +kernel)) (by decide +kernel))
      (.cons (.letters rfl rfl rfl (by decide +kernel))
        (.cons (.letters rfl rfl rfl (by decide +kernel)) .nil))
      (.element cards (.text "Hi" (.element anchors .nil)))) .nil
  have rendered : (buildAll surroundings .empty left).result.toOption.map (List.map Node.render) =
      some ["Group #b \x7b Card \x7b Kind: \"k\"; MaxSize: n; \x7d " ++
        "Label \x7b Text: \"Hi\"; \x7d #Slot \x7b \x7d \x7d"] := by
    decide +kernel
  exact ⟨groups, rendered, @buildAll_of_alike surroundings left right groups .empty⟩

end Assembly

end UiMarkup
