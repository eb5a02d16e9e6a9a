import UiMarkup.Proofs.Component.Marks
import UiMarkup.Proofs.Component.Provenance

namespace UiMarkup

def shownKeys : List String :=
  ["Text", "TextKey"]

namespace Style

theorem shownKeys_parse {block : String} {properties : Properties} (h : parse block = .ok properties) :
    ∀ key ∈ shownKeys, key ∉ Fields.keys properties := by
  have table : ∀ entry ∈ targets, ∀ key ∈ shownKeys, key ≠ entry.2.property := by decide
  have start : ∀ key ∈ shownKeys, key ∉ Fields.keys ([] : Properties) := by simp [Fields.keys]
  refine readDeclarations_forall (fun set => ∀ key ∈ shownKeys, key ∉ Fields.keys set) ?_ start h
  intro properties absent entry among value _ key isShown member
  rcases Value.mem_keys_mergeFields_iff.mp member with member | member
  · exact absent key isShown member
  · rw [keys_assign, List.mem_singleton] at member
    exact table entry among key isShown member

end Style

namespace Node

variable {node : Node}

def Distinct (node : Node) : Prop :=
  (Fields.keys node.properties).Nodup

def Single (node : Node) : Prop :=
  ¬ ("Text" ∈ Fields.keys node.properties ∧ "TextKey" ∈ Fields.keys node.properties)

theorem Single.set (single : node.Single) {key : String} (other : key ∉ shownKeys) (value : Value) :
    (node.set key value).Single := by
  have kept (shown : String) (isShown : shown ∈ shownKeys)
      (member : shown ∈ Fields.keys (node.set key value).properties) :
      shown ∈ Fields.keys node.properties := by
    refine (Fields.mem_keys_put_iff.mp member).resolve_right ?_
    rintro rfl
    exact other isShown
  rintro ⟨hasText, hasKey⟩
  exact single ⟨kept "Text" (by decide) hasText, kept "TextKey" (by decide) hasKey⟩

structure Silent (node : Node) : Prop where
  distinct : node.Distinct
  absent : ∀ key ∈ shownKeys, key ∉ Fields.keys node.properties

theorem Silent.single (silent : node.Silent) : node.Single :=
  fun both => silent.absent "Text" (by decide) both.1

theorem silent_of_properties (empty : node.properties = []) : node.Silent := by
  refine ⟨?_, ?_⟩
  · rw [Distinct, empty]
    exact List.nodup_nil
  · rw [empty]
    exact fun _ _ => List.not_mem_nil

theorem Silent.set (silent : node.Silent) {key : String} (other : key ∉ shownKeys) (value : Value) :
    (node.set key value).Silent := by
  refine ⟨Fields.nodup_keys_put silent.distinct key value, ?_⟩
  intro shown isShown member
  rcases Fields.mem_keys_put_iff.mp member with member | rfl
  · exact silent.absent shown isShown member
  · exact other isShown

theorem Silent.withChildren (silent : node.Silent) (children : List Node) :
    Silent { node with children } :=
  ⟨silent.distinct, silent.absent⟩

theorem single_setText (distinct : node.Distinct) (text : String) : (node.setText text).Single := by
  have removed (key : String) : key ∉ Fields.keys (Fields.without node.properties key) := by
    intro member
    obtain ⟨value, found⟩ := Fields.mem_keys_iff.mp member
    rw [Fields.value?_without_self distinct] at found
    cases found
  unfold setText
  split
  · rintro ⟨hasText, _⟩
    rcases Fields.mem_keys_put_iff.mp hasText with member | same
    · exact removed "Text" member
    · exact absurd same (by decide)
  · rintro ⟨_, hasKey⟩
    rcases Fields.mem_keys_put_iff.mp hasKey with member | same
    · exact removed "TextKey" member
    · exact absurd same (by decide)

theorem distinct_setText (distinct : node.Distinct) (text : String) : (node.setText text).Distinct := by
  unfold setText
  split
  · exact Fields.nodup_keys_put (distinct.sublist (Fields.keys_without_sublist _ _)) _ _
  · exact Fields.nodup_keys_put (distinct.sublist (Fields.keys_without_sublist _ _)) _ _

theorem mem_keys_of_property? {key : String} (has : (node.property? key).isSome = true) :
    key ∈ Fields.keys node.properties :=
  Fields.mem_keys_iff.mpr (Option.isSome_iff_exists.mp has)

end Node

theorem Defaults.Starts.silent {node : Node} (starts : Starts node) : node.Silent := by
  have table : ∀ key ∈ properties, key ∉ shownKeys := by decide
  cases starts with
  | bare => exact Node.silent_of_properties rfl
  | one among isKey value bearing =>
    refine ⟨List.nodup_singleton _, ?_⟩
    intro shown isShown member
    rw [List.mem_singleton.mp member] at isShown
    exact table _ isKey isShown

namespace Raster

theorem silent_cell (side : Float) (count : Nat) (pixel : Pixel) : (cell side count pixel).Silent := by
  have group : (Node.component "Group").Silent := Node.silent_of_properties rfl
  unfold cell
  simp only
  split
  · exact (group.set (by decide) _).set (by decide) _
  · exact group.set (by decide) _

theorem silent_row (side : Float) (pixels : List Pixel) : (row side pixels).Silent := by
  have group : (Node.component "Group").Silent := Node.silent_of_properties rfl
  have high : ((Node.component "Group").set "Anchor" (.object [("Height", .number side)])).Silent :=
    group.set (by decide) _
  exact (high.set (by decide) _).withChildren _

theorem silent_drawing (side : Float) (width height : Nat) (rows : List (List Pixel)) :
    (drawing side width height rows).Silent := by
  have group : (Node.component "Group").Silent := Node.silent_of_properties rfl
  have sized : ((Node.component "Group").set "Anchor"
      (size (width.toFloat * side) (height.toFloat * side))).Silent :=
    group.set (by decide) _
  exact (sized.set (by decide) _).withChildren _

end Raster

theorem Resolution.silent_of_resolves {surroundings : Surroundings} {aliases : Aliases}
    {tag : QualifiedTag} {attributes : Fields String} {bare : Node} {origin : Origin}
    (unregistered : ∀ tag, surroundings.registry.factory? tag = none)
    (h : Resolves surroundings aliases tag attributes bare origin) : bare.Silent := by
  cases h with
  | custom found =>
    rw [unregistered] at found
    cases found
  | qualified => exact Node.silent_of_properties rfl
  | intern isPlain underscore made =>
    rcases intern_ok made with ⟨_, drawn⟩ | ⟨_, id, rfl⟩ | rfl
    · obtain ⟨side, width, height, rows, rfl⟩ := image_ok drawn
      exact Raster.silent_drawing side width height rows
    · exact Node.silent_of_properties rfl
    · exact Node.silent_of_properties rfl
  | usual isPlain made => exact (Defaults.starts_component? made).silent
  | named => exact Node.silent_of_properties rfl

/-- An attribute that sets a text or the key of one as a property, so that the other stays: a binding,
or an attribute but `text` where the element is not one that takes care of its attributes itself. -/
def Attribute.SetsShown (given : Attribute) (owned : Bool) : Prop :=
  given.ownProperty ∈ shownKeys ∧
    (given.binding = true ∨ (owned = false ∧ Text.lower given.name ≠ "text"))

namespace Assembly

variable {vars : Variables} {origin : Origin} {node changed : Node} {given : Attribute}

theorem Dresses.distinct (h : Dresses origin given node changed) (distinct : node.Distinct) :
    changed.Distinct := by
  cases h with
  | nothing => exact distinct
  | id id => exact distinct
  | style parsed => exact Value.nodup_keys_mergeFields distinct
  | text text => exact Node.distinct_setText distinct text
  | renamed among value => exact Fields.nodup_keys_put distinct _ value
  | own how value => exact Fields.nodup_keys_put distinct _ value

theorem Dresses.single (h : Dresses origin given node changed) (distinct : node.Distinct)
    (single : node.Single) : changed.Single ∨ given.SetsShown origin.ownsAttributes := by
  cases h with
  | nothing => exact .inl single
  | id id => exact .inl single
  | style parsed =>
    left
    have absent := Style.shownKeys_parse parsed
    rintro ⟨hasText, hasKey⟩
    refine single ⟨?_, ?_⟩
    · exact (Value.mem_keys_mergeFields_iff.mp hasText).resolve_right (absent _ (by decide))
    · exact (Value.mem_keys_mergeFields_iff.mp hasKey).resolve_right (absent _ (by decide))
  | text text => exact .inl (Node.single_setText distinct text)
  | renamed among value =>
    have table : ∀ key ∈ renamedProperties, key ∉ shownKeys := by decide
    exact .inl (single.set (table _ among) value)
  | own how value =>
    by_cases isShown : given.ownProperty ∈ shownKeys
    · exact .inr ⟨isShown, how⟩
    · exact .inl (single.set isShown value)

theorem distinct_applyAttributes {attributes : List Attribute} (distinct : node.Distinct)
    (h : applyAttributes vars origin node attributes = .ok changed) : changed.Distinct := by
  induction attributes generalizing node with
  | nil =>
    cases h
    exact distinct
  | cons given rest ih =>
    obtain ⟨first, applied, others⟩ := ok_of_bind h
    exact ih ((dresses_applyAttribute applied).distinct distinct) others

theorem single_applyAttributes {attributes : List Attribute} (distinct : node.Distinct)
    (single : node.Single) (h : applyAttributes vars origin node attributes = .ok changed) :
    changed.Single ∨ ∃ given ∈ attributes, given.SetsShown origin.ownsAttributes := by
  induction attributes generalizing node with
  | nil =>
    cases h
    exact .inl single
  | cons given rest ih =>
    obtain ⟨first, applied, others⟩ := ok_of_bind h
    have dresses := dresses_applyAttribute applied
    rcases dresses.single distinct single with single | sets
    · refine (ih (dresses.distinct distinct) single others).imp_right ?_
      rintro ⟨later, member, sets⟩
      exact ⟨later, List.mem_cons_of_mem _ member, sets⟩
    · exact .inr ⟨given, List.mem_cons_self, sets⟩

variable {surroundings : Surroundings} {scope : Scope}

theorem not_mem_of_buildContents {contents : List (Content Element)} {nodes : List Node}
    (h : (buildContents surroundings scope true contents).result = .ok (nodes, [])) (text : String) :
    .text text ∉ contents := by
  intro member
  have texts := texts_of_buildContents h
  have none : Content.texts contents = [] := List.map_eq_nil_iff.mp texts.symm
  have among := Content.mem_texts_iff.mpr member
  rw [none] at among
  cases among

theorem head_of_unowned {tag : String} {attributes : Fields String} {aliases : Aliases} {bare : Node}
    (unregistered : ∀ tag, surroundings.registry.factory? tag = none)
    (h : (Resolution.resolve surroundings aliases (.ofTag tag) attributes).result = .ok (bare, origin))
    (unowned : origin.ownsAttributes = false) : tag.toList.head? ≠ some '_' := by
  intro underscore
  obtain ⟨name, letters⟩ := List.head?_eq_some_iff.mp underscore
  rw [Resolution.resolve_of_underscore letters (unregistered _), Warned.result_bind] at h
  obtain ⟨node, _, done⟩ := ok_of_bind h
  cases done
  cases unowned

/-- A component with a text and a key of one: some attribute sets one of them, and no text inside the
element takes the place of both. -/
theorem setsShown_of_build {element : Element}
    (unregistered : ∀ tag, surroundings.registry.factory? tag = none)
    (built : (build surroundings scope element).result = .ok node) (both : ¬ node.Single) :
    (∃ given ∈ element.attributes, given.SetsShown (element.tag.toList.head? == some '_')) ∧
      (node.textBearing = true → ∀ text, .text text ∉ element.children) := by
  obtain ⟨bare, origin, dressed, nodes, texts, resolved, applied, inside, rfl⟩ := build_parts built
  have silent := Resolution.silent_of_resolves unregistered (Resolution.resolve_ok resolved)
  have distinct := distinct_applyAttributes silent.distinct applied
  have frame := fill_frame dressed nodes texts
  cases texts with
  | cons text texts =>
    -- the text inside is set last, so that only one of the two is left
    have filled : Node.Distinct { dressed with children := dressed.children ++ nodes } := distinct
    exact absurd (Node.single_setText filled _) both
  | nil =>
    refine ⟨?_, ?_⟩
    · obtain ⟨given, member, isShown, how⟩ :=
        (single_applyAttributes silent.distinct silent.single applied).resolve_left both
      refine ⟨given, member, isShown, how.imp_right ?_⟩
      rintro ⟨unowned, notText⟩
      exact ⟨beq_eq_false_iff_ne.mpr (head_of_unowned unregistered resolved unowned), notText⟩
    · intro bearing
      rw [frame.textBearing] at bearing
      rw [show dressed.textBearing = true from bearing] at inside
      exact not_mem_of_buildContents inside

end Assembly

namespace Template

/-- Without custom tags, a component has both a text and the key of one only if it comes from an
element with an attribute that sets one of the properties under its own name, and it bears no text
inside the element. -/
theorem attribute_of_text_and_key {surroundings : Surroundings} {overrides : Fields String}
    {source : String} {template : Template} (custom : surroundings.registry = .empty)
    (compiled : (compile surroundings overrides source).result = .ok template) :
    ∃ document, Document.parse source = .ok document ∧
      ∀ path node, Node.at? template.roots path = some node →
        (node.property? "Text").isSome = true → (node.property? "TextKey").isSome = true →
        ∃ element ∈ document.all,
          (Assembly.build surroundings ⟨template.vars, template.aliases⟩ element).result = .ok node ∧
          (∃ given ∈ element.attributes, given.SetsShown (element.tag.toList.head? == some '_')) ∧
          (node.textBearing = true → ∀ text, .text text ∉ element.children) := by
  obtain ⟨document, parsed, stems⟩ := stems_of_compile custom compiled
  refine ⟨document, parsed, ?_⟩
  intro path node found hasText hasKey
  have both : ¬ node.Single := fun single =>
    single ⟨Node.mem_keys_of_property? hasText, Node.mem_keys_of_property? hasKey⟩
  cases stems path node found with
  | element among built =>
    have unregistered := Registry.factory?_of_empty custom
    exact ⟨_, among, built, Assembly.setsShown_of_build unregistered built both⟩
  | text text =>
    have blank : (Node.textual "Label").Silent := Node.silent_of_properties rfl
    exact absurd (Node.single_setText blank.distinct text) both
  | row side pixels => exact absurd (Raster.silent_row side pixels).single both
  | cell side count pixel => exact absurd (Raster.silent_cell side count pixel).single both

theorem attribute_of_text_and_key_inner :
    let surroundings : Surroundings := ⟨.empty, fun _ => .directory, none⟩
    let source := "<div><p text='Hi' text-key='greeting'/></div>"
    ∃ template node document, (compile surroundings [] source).result = .ok template ∧
      template.render = "Group \x7b Label \x7b Text: \"Hi\"; TextKey: \"greeting\"; \x7d \x7d" ∧
      Node.at? template.roots [0, 0] = some node ∧
      (node.property? "Text").isSome = true ∧ (node.property? "TextKey").isSome = true ∧
      Document.parse source = .ok document ∧
      ∃ element ∈ document.all, ∃ given ∈ element.attributes,
        given.SetsShown (element.tag.toList.head? == some '_') := by
  intro surroundings source
  obtain ⟨template, compiled, seen⟩ := ok_of_toOption_map
    (show (compile surroundings [] source).result.toOption.map (fun template =>
        (template.render, (Node.at? template.roots [0, 0]).map fun node =>
          ((node.property? "Text").isSome, (node.property? "TextKey").isSome))) =
      some ("Group \x7b Label \x7b Text: \"Hi\"; TextKey: \"greeting\"; \x7d \x7d", some (true, true)) by
        decide +kernel)
  obtain ⟨rendered, shown⟩ := Prod.mk.inj seen
  obtain ⟨node, found, both⟩ := Option.map_eq_some_iff.mp shown
  obtain ⟨hasText, hasKey⟩ := Prod.mk.inj both
  obtain ⟨document, parsed, sets⟩ := attribute_of_text_and_key rfl compiled
  obtain ⟨element, among, _, ⟨given, member, isShown⟩, _⟩ := sets [0, 0] node found hasText hasKey
  exact ⟨template, node, document, compiled, rendered, found, hasText, hasKey, parsed,
    element, among, given, member, isShown⟩

/-- A binding joins the key that the `text` attribute set before it. -/
theorem text_and_key_of_binding :
    ∃ template node,
      (compile ⟨.empty, fun _ => .directory, none⟩ [] "<p text='%menu.title' :text='title'/>").result =
        .ok template ∧
      Node.at? template.roots [0] = some node ∧
      (node.property? "Text").isSome = true ∧ (node.property? "TextKey").isSome = true := by
  obtain ⟨template, compiled, seen⟩ := ok_of_toOption_map
    (show (compile ⟨.empty, fun _ => .directory, none⟩ []
        "<p text='%menu.title' :text='title'/>").result.toOption.map (fun template =>
          (Node.at? template.roots [0]).map fun node =>
            ((node.property? "Text").isSome, (node.property? "TextKey").isSome)) =
      some (some (true, true)) by decide +kernel)
  obtain ⟨node, found, both⟩ := Option.map_eq_some_iff.mp seen
  obtain ⟨hasText, hasKey⟩ := Prod.mk.inj both
  exact ⟨template, node, compiled, found, hasText, hasKey⟩

end Template

end UiMarkup
