import UiMarkup.Proofs.Component.Acceptance
import UiMarkup.Proofs.Component.ShownText

namespace UiMarkup

def Attribute.isId (given : Attribute) : Bool :=
  !given.binding && Text.lower given.name == "id"

/-- The attribute sets a property although the component takes care of its attributes itself: as a
binding, or in a style block. -/
def Attribute.Reaches (given : Attribute) (vars : Variables) (key : String) : Prop :=
  (given.binding = true ∧ Assembly.propertyName given.name = key) ∨
    (given.isStyle = true ∧ ∃ properties,
      Style.parse ((Assembly.expanded vars given).getD "") = .ok properties ∧ key ∈ Fields.keys properties)

namespace Assembly

inductive Adjusts (vars : Variables) (given : Attribute) (node : Node) : Node → Prop
  | id (isId : given.isId = true) :
      Adjusts vars given node (node.setId ((expanded vars given).getD ""))
  | style {properties : Properties} (isStyle : given.isStyle = true)
      (parsed : Style.parse ((expanded vars given).getD "") = .ok properties) :
      Adjusts vars given node (node.setAll properties)
  | binding (bound : given.binding = true) :
      Adjusts vars given node (node.set (propertyName given.name) (.expression (given.value.getD "")))
  | ignored (static : given.binding = false) (notId : given.isId = false)
      (notStyle : given.isStyle = false) : Adjusts vars given node node

inductive AdjustsAll (vars : Variables) : List Attribute → Node → Node → Prop
  | done (node : Node) : AdjustsAll vars [] node node
  | step {given : Attribute} {rest : List Attribute} {node next changed : Node}
      (first : Adjusts vars given node next) (more : AdjustsAll vars rest next changed) :
      AdjustsAll vars (given :: rest) node changed

section Attributes

variable {vars : Variables} {origin : Origin} {node changed : Node} {given : Attribute}
  {attributes : List Attribute}

theorem adjusts_applyAttribute (owned : origin.ownsAttributes = true)
    (h : applyAttribute vars origin node given = .ok changed) : Adjusts vars given node changed := by
  unfold applyAttribute at h
  simp only [owned, ↓reduceIte] at h
  split at h
  · rename_i bound
    cases h
    rw [expanded, if_pos bound]
    exact .binding bound
  · rename_i static
    split at h
    · rename_i name
      cases h
      exact .id (by simp [Attribute.isId, static, name])
    · rename_i notId
      split at h
      · rename_i name
        obtain ⟨properties, parsed, done⟩ := ok_of_bind h
        cases done
        exact .style (by simp [Attribute.isStyle, static, name]) parsed
      · rename_i notStyle
        cases h
        exact .ignored (by simpa using static) (by simp [Attribute.isId, notId])
          (by simp [Attribute.isStyle, notStyle])

theorem adjustsAll_applyAttributes (owned : origin.ownsAttributes = true)
    (h : applyAttributes vars origin node attributes = .ok changed) :
    AdjustsAll vars attributes node changed := by
  induction attributes generalizing node with
  | nil =>
    cases h
    exact .done _
  | cons given rest ih =>
    obtain ⟨next, applied, others⟩ := ok_of_bind h
    exact .step (adjusts_applyAttribute owned applied) (ih others)

theorem Adjusts.id_eq (h : Adjusts vars given node changed) :
    changed.id = if given.isId then some ((expanded vars given).getD "") else node.id := by
  cases h with
  | id isId =>
    rw [if_pos isId]
    rfl
  | style isStyle parsed =>
    simp only [Attribute.isStyle, Bool.and_eq_true, beq_iff_eq] at isStyle
    have notId : given.isId = false := by simp [Attribute.isId, isStyle.2]
    rw [notId]
    rfl
  | binding bound =>
    have notId : given.isId = false := by simp [Attribute.isId, bound]
    rw [notId]
    rfl
  | ignored static notId notStyle =>
    rw [notId]
    rfl

theorem AdjustsAll.id_eq (h : AdjustsAll vars attributes node changed) :
    changed.id = ((attributes.filter Attribute.isId).getLast?.map fun given =>
      (expanded vars given).getD "").or node.id := by
  induction h with
  | done node => rfl
  | @step given rest node next changed first more ih =>
    rw [ih, first.id_eq]
    by_cases isId : given.isId = true
    · rw [List.filter_cons_of_pos isId, List.getLast?_cons, if_pos isId]
      cases (rest.filter Attribute.isId).getLast? <;> rfl
    · rw [List.filter_cons_of_neg isId, if_neg isId]

theorem Adjusts.reaches (h : Adjusts vars given node changed) {key : String}
    (differs : changed.property? key ≠ node.property? key) : given.Reaches vars key := by
  cases h with
  | id isId => exact absurd rfl differs
  | ignored static notId notStyle => exact absurd rfl differs
  | @style properties isStyle parsed =>
    refine .inr ⟨isStyle, properties, parsed, ?_⟩
    by_contra absent
    exact differs (Value.value?_mergeFields_of_notMem absent)
  | binding bound =>
    refine .inl ⟨bound, ?_⟩
    by_contra other
    exact differs (Fields.value?_put_of_ne _ _ (Ne.symm other))

theorem AdjustsAll.reaches (h : AdjustsAll vars attributes node changed) {key : String}
    (differs : changed.property? key ≠ node.property? key) :
    ∃ given ∈ attributes, given.Reaches vars key := by
  induction h with
  | done node => exact absurd rfl differs
  | @step given rest node next changed first more ih =>
    by_cases same : next.property? key = node.property? key
    · rw [← same] at differs
      obtain ⟨later, member, reaches⟩ := ih differs
      exact ⟨later, List.mem_cons_of_mem _ member, reaches⟩
    · exact ⟨given, List.mem_cons_self, first.reaches same⟩

end Attributes

theorem id_fill (node : Node) (nodes : List Node) (texts : List String) :
    (fill node nodes texts).id = node.id := by
  unfold fill Node.setText
  simp only
  split
  · rfl
  · split <;> rfl

theorem properties_fill (node : Node) (nodes : List Node) (texts : List String) :
    (fill node nodes texts).properties =
      if texts = [] then node.properties
      else (node.setText (String.intercalate " " texts)).properties := by
  cases texts with
  | nil => rfl
  | cons text texts =>
    unfold fill Node.setText
    simp only [List.isEmpty_cons, Bool.false_eq_true, reduceCtorEq, ↓reduceIte]
    split <;> rfl

theorem property?_setText {key : String} (other : key ∉ shownKeys) (node : Node) (text : String) :
    (node.setText text).property? key = node.property? key := by
  simp only [shownKeys, List.mem_cons, List.not_mem_nil, or_false, not_or] at other
  unfold Node.setText Node.property?
  split
  · rw [Fields.value?_put_of_ne _ _ other.2, Fields.value?_without_of_ne _ other.1]
  · rw [Fields.value?_put_of_ne _ _ other.1, Fields.value?_without_of_ne _ other.2]

/-- The component of a custom tag, or of a tag with an underscore, has the id and the properties of
what the tag stands for, changed only by ids, style blocks and bindings in the order of the
attributes and then by the text that it bears. No other attribute adds, changes or removes a
property. -/
theorem owned_attributes {surroundings : Surroundings} {scope : Scope} {element : Element}
    {bare node : Node} {origin : Origin}
    (resolved : (Resolution.resolve surroundings scope.aliases (.ofTag element.tag)
      (attributeFields scope.vars element.attributes)).result = .ok (bare, origin))
    (owned : origin = .custom ∨ origin = .intern)
    (built : (build surroundings scope element).result = .ok node) :
    let texts := if bare.textBearing then (Content.texts element.children).map scope.vars.substitute
      else []
    (∃ dressed, AdjustsAll scope.vars element.attributes bare dressed ∧ node.id = dressed.id ∧
      node.properties = if texts = [] then dressed.properties
        else (dressed.setText (String.intercalate " " texts)).properties) ∧
    (node.id = ((element.attributes.filter Attribute.isId).getLast?.map fun given =>
      (expanded scope.vars given).getD "").or bare.id) ∧
    ∀ key, node.property? key ≠ bare.property? key →
      (∃ given ∈ element.attributes, given.Reaches scope.vars key) ∨
        (key ∈ shownKeys ∧ texts ≠ []) := by
  intro texts
  have owns : origin.ownsAttributes = true := by rcases owned with rfl | rfl <;> rfl
  obtain ⟨found, itsOrigin, dressed, nodes, shown, found_eq, applied, inside, rfl⟩ := build_parts built
  rw [resolved] at found_eq
  cases found_eq
  have adjusts := adjustsAll_applyAttributes owns applied
  have sameTexts : shown = texts := by
    rw [texts_of_buildContents inside, (sameFrame_applyAttributes applied).textBearing]
  have properties := properties_fill dressed nodes shown
  have sameId := id_fill dressed nodes shown
  rw [sameTexts] at properties sameId ⊢
  refine ⟨⟨dressed, adjusts, sameId, properties⟩, sameId.trans adjusts.id_eq, ?_⟩
  intro key differs
  by_cases changed : dressed.property? key = bare.property? key
  · right
    rw [← changed, Node.property?, properties] at differs
    split at differs
    · exact absurd rfl differs
    · rename_i filled
      refine ⟨?_, filled⟩
      by_contra other
      exact differs (property?_setText other dressed _)
  · exact .inl (adjusts.reaches changed)

def cards : Surroundings :=
  ⟨Registry.empty.register "card" (TagRecipe.make ⟨"card", some "Card", true, [], [("kind", "Kind")], false⟩),
    fun _ => .directory, none⟩

theorem owned_attributes_card :
    let attributes : List Attribute := [⟨"kind", some "a", false⟩, ⟨"ID", some "First", false⟩,
      ⟨"title", some "t", false⟩, ⟨"style", some "width: 4", false⟩, ⟨"size", some "n", true⟩]
    let element : Element := ⟨"Card", ⟨1, 1⟩, attributes, [.text "Hi"]⟩
    ∃ bare node, (Resolution.resolve cards Scope.empty.aliases (.ofTag element.tag)
        (attributeFields Scope.empty.vars attributes)).result = .ok (bare, .custom) ∧
      (build cards .empty element).result = .ok node ∧
      node.render = "Card #First \x7b Kind: \"a\"; Anchor: (Width: 4); Size: n; Text: \"Hi\"; \x7d" ∧
      node.id = some "First" ∧ ∃ dressed, AdjustsAll Scope.empty.vars attributes bare dressed := by
  intro attributes element
  obtain ⟨⟨bare, origin⟩, resolved, seen⟩ := ok_of_toOption_map
    (show (Resolution.resolve cards Scope.empty.aliases (.ofTag element.tag)
        (attributeFields Scope.empty.vars attributes)).result.toOption.map (fun found => found.2) =
      some .custom by decide +kernel)
  obtain rfl : origin = .custom := seen
  obtain ⟨node, built, rendered⟩ := ok_of_toOption_map
    (show (build cards .empty element).result.toOption.map Node.render =
      some "Card #First \x7b Kind: \"a\"; Anchor: (Width: 4); Size: n; Text: \"Hi\"; \x7d" by
        decide +kernel)
  obtain ⟨⟨dressed, adjusts, _, _⟩, isId, _⟩ :=
    @owned_attributes cards .empty element bare node .custom resolved (.inl rfl) built
  have last : ((attributes.filter Attribute.isId).getLast?.map fun given =>
      (expanded Scope.empty.vars given).getD "") = some "First" := by
    decide +kernel
  have first : node.id = some "First" := by
    rw [isId, last]
    rfl
  exact ⟨bare, node, resolved, built, rendered, first, dressed, adjusts⟩

/-- A binding sets a property of a component that takes care of its attributes itself, on a tag with
an underscore and on a custom tag, where there is no id, no style block and no text. -/
theorem bindings_reach_owned :
    let attributes : List Attribute := [⟨"size", some "4", true⟩]
    ∀ tag ∈ ["_spacer", "card"], ∃ bare origin node,
      (Resolution.resolve cards Scope.empty.aliases (.ofTag tag)
        (attributeFields Scope.empty.vars attributes)).result = .ok (bare, origin) ∧
      (origin = .custom ∨ origin = .intern) ∧
      (build cards .empty ⟨tag, ⟨1, 1⟩, attributes, []⟩).result = .ok node ∧
      bare.property? "Size" = none ∧ (node.property? "Size").isSome = true := by
  intro attributes tag member
  have resolves : ∀ tag ∈ ["_spacer", "card"],
      (Resolution.resolve cards Scope.empty.aliases (.ofTag tag)
        (attributeFields Scope.empty.vars attributes)).result.toOption.map (fun found =>
          ((found.1.property? "Size").isNone, found.2.ownsAttributes)) = some (true, true) := by
    decide +kernel
  have builds : ∀ tag ∈ ["_spacer", "card"],
      (build cards .empty ⟨tag, ⟨1, 1⟩, attributes, []⟩).result.toOption.map (fun node =>
        (node.property? "Size").isSome) = some true := by
    decide +kernel
  obtain ⟨⟨bare, origin⟩, resolved, seen⟩ := ok_of_toOption_map (resolves tag member)
  obtain ⟨node, built, has⟩ := ok_of_toOption_map (builds tag member)
  obtain ⟨without, owned⟩ := Prod.mk.inj seen
  refine ⟨bare, origin, node, resolved, ?_, built, Option.isNone_iff_eq_none.mp without, has⟩
  cases origin with
  | custom => exact .inl rfl
  | intern => exact .inr rfl
  | _ => cases owned

end Assembly

end UiMarkup
