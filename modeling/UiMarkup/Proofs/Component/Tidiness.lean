import UiMarkup.Proofs.Component.Marks
import UiMarkup.Proofs.Markup.Completeness
import UiMarkup.Proofs.Markup.Soundness
import UiMarkup.Proofs.Script.Aliases

namespace UiMarkup

def Value.Contained (value : Value) : Prop :=
  value.Unmarked ∨ ∃ expression, value = .expression expression

namespace Properties

def Tidy (properties : Properties) : Prop :=
  ∀ field ∈ properties, IsKey field.1 ∧ field.2.Contained

variable {properties : Properties}

theorem Tidy.put (tidy : properties.Tidy) {key : String} {value : Value} (isKey : IsKey key)
    (contained : value.Contained) : Tidy (Fields.put properties key value) := by
  intro field member
  rcases Fields.mem_put member with member | rfl
  · exact tidy field member
  · exact ⟨isKey, contained⟩

theorem Tidy.without (tidy : properties.Tidy) (key : String) : Tidy (Fields.without properties key) := by
  intro field member
  exact tidy field (Fields.mem_of_mem_without member)

theorem Tidy.merge (tidy : properties.Tidy) {incoming : Properties}
    (unmarked : Value.FieldsUnmarked incoming) : (properties.merge incoming).Tidy := by
  refine Value.mergeFields_forall incoming properties (fun _ h => .inl h) ?_ unmarked tidy
  rintro fields (unmarked | ⟨expression, same⟩)
  · exact Value.fieldsUnmarked_of_object unmarked
  · cases same

end Properties

namespace Node

/-- A component and everything in it: names have no marks, and values have marks in quotes only,
expressions apart. -/
inductive Tidy : Node → Prop
  | intro {node : Node} (name : ∀ name ∈ node.name, Unmarked name)
      (properties : Properties.Tidy node.properties) (children : ∀ child ∈ node.children, Tidy child) :
      Tidy node

variable {node : Node}

theorem Tidy.properties (tidy : node.Tidy) : Properties.Tidy node.properties := by
  obtain ⟨_, properties, _⟩ := tidy
  exact properties

theorem Tidy.children (tidy : node.Tidy) : ∀ child ∈ node.children, child.Tidy := by
  obtain ⟨_, _, children⟩ := tidy
  exact children

theorem Tidy.withProperties (tidy : node.Tidy) {properties : Properties} (h : properties.Tidy) :
    Tidy { node with properties } := by
  obtain ⟨name, _, children⟩ := tidy
  exact ⟨name, h, children⟩

theorem Tidy.withChildren (tidy : node.Tidy) {nodes : List Node} (h : ∀ child ∈ nodes, Tidy child) :
    Tidy { node with children := nodes } := by
  obtain ⟨name, properties, _⟩ := tidy
  exact ⟨name, properties, h⟩

theorem Tidy.setId (tidy : node.Tidy) (id : String) : (node.setId id).Tidy := by
  obtain ⟨name, properties, children⟩ := tidy
  exact ⟨name, properties, children⟩

theorem Tidy.set (tidy : node.Tidy) {key : String} {value : Value} (isKey : IsKey key)
    (contained : value.Contained) : (node.set key value).Tidy :=
  tidy.withProperties (tidy.properties.put isKey contained)

theorem Tidy.setAll (tidy : node.Tidy) {incoming : Properties}
    (unmarked : Value.FieldsUnmarked incoming) : (node.setAll incoming).Tidy :=
  tidy.withProperties (tidy.properties.merge unmarked)

theorem Tidy.setText (tidy : node.Tidy) (text : String) : (node.setText text).Tidy := by
  have properties := tidy.properties
  unfold Node.setText
  split
  · exact tidy.withProperties ((properties.without "Text").put (by decide) (.inl trivial))
  · exact tidy.withProperties ((properties.without "TextKey").put (by decide) (.inl trivial))

theorem tidy_component {name : String} (unmarked : Unmarked name) : (component name).Tidy := by
  refine ⟨?_, by simp [Properties.Tidy, component], by simp [component]⟩
  rintro other ⟨⟩
  exact unmarked

theorem tidy_textual {name : String} (unmarked : Unmarked name) : (textual name).Tidy := by
  refine ⟨?_, by simp [Properties.Tidy, textual], by simp [textual]⟩
  rintro other ⟨⟩
  exact unmarked

theorem tidy_anchor (id : String) : (anchor id).Tidy :=
  ⟨by simp [anchor], by simp [Properties.Tidy, anchor], by simp [anchor]⟩

end Node

theorem isKeyChar_of_isAttributePart {c : Char} (part : Reader.isAttributePart c = true) :
    isKeyChar c = true := by
  simp only [isKeyChar, Bool.and_eq_true, bne_iff_ne]
  refine ⟨⟨?_, ?_⟩, ?_⟩
  all_goals
    rintro rfl
    exact absurd part (by decide)

theorem isKeyChar_toLower (c : Char) : isKeyChar c.toLower = isKeyChar c :=
  Reader.toLower_class (by decide +kernel) c

theorem isKeyChar_ofNat {n : Nat} (large : 34 < n) : isKeyChar (Char.ofNat n) = true := by
  by_cases valid : n.isValidChar
  · have code : (Char.ofNat n).toNat = n := by
      rw [Char.ofNat, dif_pos valid]
      rfl
    have other (c : Char) (small : c.toNat ≤ 34) : Char.ofNat n ≠ c := by
      rintro rfl
      omega
    simp only [isKeyChar, Bool.and_eq_true, bne_iff_ne]
    exact ⟨⟨other ' ' (by decide), other '\n' (by decide)⟩, other '"' (by decide)⟩
  · rw [Char.ofNat, dif_neg valid]
    rfl

/-- No character comes to be a space, a line end or a quote when it is capitalized. -/
theorem isKeyChar_capitalForm {c : Char} (isKey : isKeyChar c = true) :
    ∀ d ∈ Text.capitalForm c, isKeyChar d = true := by
  intro d member
  unfold Text.capitalForm at member
  split at member
  · rename_i ascii
    -- within ASCII there are few characters; the capitals of the others are all beyond the quote
    have table : ∀ n ∈ List.range 128, isKeyChar (Char.ofNat n) = true →
        isKeyChar (Char.ofNat n).toUpper = true := by decide +kernel
    have found := table c.toNat (List.mem_range.mpr ascii)
    rw [Char.ofNat_toNat] at found
    rw [List.mem_singleton.mp member]
    exact found isKey
  · split at member
    · rename_i form found
      have table : ∀ entry ∈ Text.capitalExpansions, ∀ n ∈ entry.2, 34 < n := by decide +kernel
      obtain ⟨n, isForm, rfl⟩ := List.mem_map.mp member
      exact isKeyChar_ofNat (table _ (mem_of_lookup found) n isForm)
    · split at member
      · rename_i first last step capital found
        have table : ∀ entry ∈ Text.capitalShifts, 34 < entry.2.2.2 := by decide +kernel
        have large : 34 < capital := table _ (List.mem_of_find?_eq_some found)
        rw [List.mem_singleton.mp member]
        exact isKeyChar_ofNat (by omega)
      · rw [List.mem_singleton.mp member]
        exact isKey

theorem Text.mem_of_mem_splitWhere {cut : Char → Bool} {text part : List Char} {c : Char}
    (isPart : part ∈ splitWhere cut text) (member : c ∈ part) : c ∈ text := by
  induction text generalizing part with
  | nil =>
    rw [List.mem_singleton.mp isPart] at member
    cases member
  | cons d rest ih =>
    unfold splitWhere at isPart
    split at isPart
    · rcases List.mem_cons.mp isPart with rfl | isPart
      · cases member
      · exact List.mem_cons_of_mem _ (ih isPart member)
    · split at isPart
      · rw [List.mem_singleton.mp isPart] at member
        rw [List.mem_singleton.mp member]
        exact List.mem_cons_self
      · rename_i first others here
        rcases List.mem_cons.mp isPart with rfl | isPart
        · rcases List.mem_cons.mp member with rfl | member
          · exact List.mem_cons_self
          · exact List.mem_cons_of_mem _ (ih (by rw [here]; exact List.mem_cons_self) member)
        · exact List.mem_cons_of_mem _ (ih (by rw [here]; exact List.mem_cons_of_mem _ isPart) member)

theorem Assembly.isKey_propertyName {name : String} (isKey : IsKey name) :
    IsKey (propertyName name) := by
  intro c member
  simp only [propertyName, String.toList_ofList, List.mem_flatMap] at member
  obtain ⟨part, isPart, member⟩ := member
  have inside (d : Char) (here : d ∈ part) : isKeyChar d = true :=
    isKey d (Text.mem_of_mem_splitWhere (List.mem_of_mem_filter isPart) here)
  cases part with
  | nil => cases member
  | cons first rest =>
    rcases List.mem_append.mp member with member | member
    · exact isKeyChar_capitalForm (inside first List.mem_cons_self) c member
    · exact inside c (List.mem_cons_of_mem _ member)

theorem Attribute.WellFormed.isKey {given : Attribute} (wellFormed : given.WellFormed) :
    IsKey given.name :=
  fun c member => isKeyChar_of_isAttributePart (wellFormed.parts c member)

theorem IsKey.lower {name : String} (isKey : IsKey name) : IsKey (Text.lower name) := by
  intro c member
  simp only [Text.lower, Text.lowered, String.toList_ofList, List.mem_map] at member
  obtain ⟨d, member, rfl⟩ := member
  rw [isKeyChar_toLower]
  exact isKey d member

theorem Value.contained_ofLiteral (raw : String) : (ofLiteral raw).Contained := by
  refine .inl ?_
  unfold ofLiteral
  split
  · trivial
  · split
    · trivial
    · split <;> trivial

namespace Defaults

theorem tidy_heading (size : Float) : (heading size).Tidy := by
  have label : (Node.textual "Label").Tidy := Node.tidy_textual (by decide)
  exact label.set (by decide) (.inl ⟨by decide, trivial, by decide, trivial, trivial⟩)

theorem tidy_styledLabel {flag : String} (isKey : IsKey flag) : (styledLabel flag).Tidy := by
  have label : (Node.textual "Label").Tidy := Node.tidy_textual (by decide)
  exact label.set (by decide) (.inl ⟨isKey, trivial, trivial⟩)

theorem tidy_input (attributes : Fields String) : (input attributes).Tidy := by
  unfold input
  split
  · have field : (Node.component "TextField").Tidy := Node.tidy_component (by decide)
    exact field.set (by decide) (.inl trivial)
  · exact Node.tidy_component (by decide)
  · exact Node.tidy_component (by decide)
  · exact Node.tidy_textual (by decide)
  · exact Node.tidy_component (by decide)

theorem tidy_component? {tag : String} {attributes : Fields String} {node : Node}
    (made : component? tag attributes = some node) : node.Tidy := by
  have group : (Node.component "Group").Tidy := Node.tidy_component (by decide)
  have column : ((Node.component "Group").set "LayoutMode" (.expression "Top")).Tidy :=
    group.set (by decide) (.inr ⟨_, rfl⟩)
  have rule : ((Node.component "Group").set "Anchor" (.object [("Height", .number 1.0)])).Tidy :=
    group.set (by decide) (.inl ⟨by decide, trivial, trivial⟩)
  unfold component? at made
  split at made
  all_goals cases made
  all_goals simp +decide only [group, column, rule, Node.tidy_component, Node.tidy_textual, tidy_heading,
    tidy_styledLabel, tidy_input]

end Defaults

namespace Raster

theorem unmarked_colorText (pixel : Pixel) : Unmarked (colorText pixel) := by
  have digits := Color.isMark_channels pixel.red.toNat pixel.green.toNat pixel.blue.toNat
  unfold colorText
  simp only
  split
  · exact Color.unmarked_opaqueColor digits
  · exact Color.unmarked_withAlpha digits _

theorem contained_size (width height : Float) : (size width height).Contained :=
  .inl ⟨by decide, trivial, by decide, trivial, trivial⟩

theorem tidy_cell (pixelSize : Float) (count : Nat) (pixel : Pixel) : (cell pixelSize count pixel).Tidy := by
  have group : (Node.component "Group").Tidy := Node.tidy_component (by decide)
  have sized : ((Node.component "Group").set "Anchor" (size (count.toFloat * pixelSize) pixelSize)).Tidy :=
    group.set (by decide) (contained_size _ _)
  unfold cell
  simp only
  split
  · exact sized.set (by decide) (.inl (unmarked_colorText pixel))
  · exact sized

theorem tidy_row (pixelSize : Float) (pixels : List Pixel) : (row pixelSize pixels).Tidy := by
  have group : (Node.component "Group").Tidy := Node.tidy_component (by decide)
  have high : ((Node.component "Group").set "Anchor" (.object [("Height", .number pixelSize)])).Tidy :=
    group.set (by decide) (.inl ⟨by decide, trivial, trivial⟩)
  refine (high.set (by decide) (.inr ⟨"Left", rfl⟩)).withChildren ?_
  intro child member
  obtain ⟨run, _, rfl⟩ := List.mem_map.mp member
  exact tidy_cell pixelSize run.1 run.2

theorem tidy_drawing (pixelSize : Float) (width height : Nat) (rows : List (List Pixel)) :
    (drawing pixelSize width height rows).Tidy := by
  have group : (Node.component "Group").Tidy := Node.tidy_component (by decide)
  have sized : ((Node.component "Group").set "Anchor"
      (size (width.toFloat * pixelSize) (height.toFloat * pixelSize))).Tidy :=
    group.set (by decide) (contained_size _ _)
  refine (sized.set (by decide) (.inr ⟨"Top", rfl⟩)).withChildren ?_
  intro child member
  obtain ⟨pixels, _, rfl⟩ := List.mem_map.mp member
  exact tidy_row pixelSize pixels

end Raster

theorem IsTagName.unmarked {tag : String} (isName : IsTagName tag.toList) : Unmarked tag := by
  obtain ⟨first, rest, letters, start, parts⟩ := isName
  intro c member
  have isPart : Reader.isNamePart c = true := by
    rw [letters] at member
    rcases List.mem_cons.mp member with rfl | member
    · exact Reader.isNamePart_of_isNameStart start
    · exact parts c member
  exact isMark_eq_false (by decide) isPart

theorem IsAliasName.unmarked {name : String} (isName : IsAliasName name) : Unmarked name := by
  obtain ⟨identifier, rfl, valid⟩ := isName
  have letters : Unmarked identifier := by
    intro c member
    unfold isIdentifier at valid
    split at valid
    · contradiction
    · rename_i first rest shape
      simp only [Bool.and_eq_true, List.all_eq_true] at valid
      rw [shape] at member
      rcases List.mem_cons.mp member with rfl | member
      · exact isMark_eq_false (by decide) valid.1
      · exact isMark_eq_false (by decide) (valid.2 c member)
  exact Unmarked.append (by decide) letters

theorem Aliases.unmarked_resolve? {aliases : Aliases} {name known : String}
    (declared : ∀ entry ∈ aliases.declared, IsAliasName entry.1)
    (found : aliases.resolve? name = some known) : Unmarked known := by
  obtain ⟨_, isBuiltin | isDeclared⟩ := resolve?_eq_some found
  · have table : ∀ known ∈ builtinAliases, Unmarked known := by decide
    exact table known isBuiltin
  · obtain ⟨entry, member, rfl⟩ := List.mem_map.mp isDeclared
    exact (declared entry member).unmarked

namespace Resolution

theorem tidy_image {surroundings : Surroundings} {attributes : Fields String} {node : Node}
    (h : image surroundings attributes = .ok node) : node.Tidy := by
  obtain ⟨side, width, height, rows, rfl⟩ := image_ok h
  exact Raster.tidy_drawing side width height rows

theorem unmarked_ofTag_name {tag : String} (unmarked : Unmarked tag) :
    Unmarked (QualifiedTag.ofTag tag).name := by
  unfold QualifiedTag.ofTag
  split
  · rename_i qualifier c name found
    obtain ⟨parts, _⟩ := Text.cutAt?_eq_some_iff.mp found
    apply unmarked_ofList
    intro d member
    apply unmarked d
    rw [parts]
    exact List.mem_append_right _ (List.mem_cons_of_mem _ member)
  · exact unmarked

theorem tidy_of_resolves {surroundings : Surroundings} {aliases : Aliases} {tag : String}
    {attributes : Fields String} {bare : Node} {origin : Origin}
    (unregistered : ∀ tag, surroundings.registry.factory? tag = none)
    (declared : ∀ entry ∈ aliases.declared, IsAliasName entry.1) (isName : IsTagName tag.toList)
    (h : Resolves surroundings aliases (.ofTag tag) attributes bare origin) : bare.Tidy := by
  have name := unmarked_ofTag_name isName.unmarked
  cases h with
  | custom found =>
    rw [unregistered] at found
    cases found
  | qualified isQualified found =>
    have known := Aliases.unmarked_resolve? declared found
    exact Node.tidy_textual ((known.append (by decide)).append name)
  | intern isPlain underscore made =>
    rcases intern_ok made with ⟨_, drawn⟩ | ⟨_, id, rfl⟩ | rfl
    · exact tidy_image drawn
    · exact Node.tidy_anchor id
    · exact Node.tidy_component (by decide)
  | usual isPlain made => exact Defaults.tidy_component? made
  | named => exact Node.tidy_textual name

end Resolution

namespace Assembly

theorem tidy_applyPlain {node : Node} (tidy : node.Tidy) {name : String} (isKey : IsKey name)
    (value : Option String) : (applyPlain node name value).Tidy := by
  unfold applyPlain
  simp only
  split
  · exact tidy
  · exact tidy
  · exact tidy.setText _
  · exact tidy.set (by decide) (.inl trivial)
  · exact tidy.set (by decide) (.inl trivial)
  · exact tidy.set (by decide) (.inl trivial)
  · exact tidy.set (by decide) (.inl trivial)
  · exact tidy.set (by decide) (.inl trivial)
  · exact tidy.set (by decide) (.inl trivial)
  · exact tidy.set (by decide) (.inl trivial)
  · exact tidy.set (by decide) (Value.contained_ofLiteral _)
  · refine tidy.set (isKey_propertyName isKey) ?_
    split
    · exact Value.contained_ofLiteral _
    · exact .inl trivial

theorem tidy_applyAttribute {vars : Variables} {origin : Origin} {node changed : Node}
    {given : Attribute} (tidy : node.Tidy) (wellFormed : given.WellFormed)
    (h : applyAttribute vars origin node given = .ok changed) : changed.Tidy := by
  unfold applyAttribute at h
  simp only at h
  split at h
  · cases h
    exact tidy.set (isKey_propertyName wellFormed.isKey) (.inr ⟨_, rfl⟩)
  · split at h
    · cases h
      exact tidy.setId _
    · split at h
      · obtain ⟨properties, parsed, done⟩ := ok_of_bind h
        cases done
        exact tidy.setAll (Style.unmarked_parse parsed)
      · split at h
        · cases h
          exact tidy
        · cases h
          exact tidy_applyPlain tidy wellFormed.isKey.lower _

theorem tidy_applyAttributes {vars : Variables} {origin : Origin} {attributes : List Attribute}
    (wellFormed : ∀ given ∈ attributes, given.WellFormed) {node changed : Node} (tidy : node.Tidy)
    (h : applyAttributes vars origin node attributes = .ok changed) : changed.Tidy := by
  induction attributes generalizing node with
  | nil =>
    cases h
    exact tidy
  | cons given rest ih =>
    obtain ⟨first, applied, others⟩ := ok_of_bind h
    rw [List.forall_mem_cons] at wellFormed
    exact ih wellFormed.2 (tidy_applyAttribute tidy wellFormed.1 applied) others

theorem tidy_fill {node : Node} (tidy : node.Tidy) {children : List Node}
    (inside : ∀ child ∈ children, child.Tidy) (texts : List String) : (fill node children texts).Tidy := by
  have filled : Node.Tidy { node with children := node.children ++ children } := by
    refine tidy.withChildren ?_
    intro child member
    rcases List.mem_append.mp member with member | member
    · exact tidy.children child member
    · exact inside child member
  unfold fill
  simp only
  split
  · exact filled
  · exact filled.setText _

section Compiled

variable {surroundings : Surroundings} {scope : Scope}

theorem tidy_label (text : String) : (label text).Tidy :=
  (Node.tidy_textual (by decide)).setText text

theorem tidy_of_build (unregistered : ∀ tag, surroundings.registry.factory? tag = none)
    (declared : ∀ entry ∈ scope.aliases.declared, IsAliasName entry.1) (element : Element)
    (proper : ∀ inner ∈ element.all, inner.Proper) {node : Node}
    (h : (build surroundings scope element).result = .ok node) : node.Tidy := by
  induction element using Element.induction generalizing node with
  | step element ih =>
    obtain ⟨bare, origin, dressed, nodes, texts, resolved, applied, inside, rfl⟩ := build_ok h
    have here := proper element element.self_mem_all
    have tidy := Resolution.tidy_of_resolves unregistered declared here.name (Resolution.resolve_ok resolved)
    refine tidy_fill (tidy_applyAttributes here.attributes tidy applied) ?_ texts
    intro child member
    obtain ⟨content, isShown, made⟩ := exists_mem_of_forall₂ inside member
    cases content with
    | text text =>
      obtain rfl : child = label _ := made
      exact tidy_label _
    | element outer =>
      have among := List.mem_of_mem_filter isShown
      refine ih outer among ?_ made
      intro inner within
      exact proper inner (Element.mem_all_of_child among within)

theorem tidy_of_buildAll (unregistered : ∀ tag, surroundings.registry.factory? tag = none)
    (declared : ∀ entry ∈ scope.aliases.declared, IsAliasName entry.1) {elements : List Element}
    (proper : ∀ element ∈ elements, ∀ inner ∈ element.all, inner.Proper) {roots : List Node}
    (h : (buildAll surroundings scope elements).result = .ok roots) : ∀ root ∈ roots, root.Tidy := by
  intro root member
  obtain ⟨content, isElement, made⟩ := exists_mem_of_forall₂ (buildAll_ok h) member
  obtain ⟨element, among, rfl⟩ := List.mem_map.mp isElement
  exact tidy_of_build unregistered declared element (proper element among) made

end Compiled

end Assembly

namespace Template

variable {surroundings : Surroundings} {overrides : Fields String} {source : String}
  {template : Template}

theorem named_of_compile (h : (compile surroundings overrides source).result = .ok template) :
    ∀ entry ∈ template.aliases.declared, IsAliasName entry.1 :=
  fun entry member => (declarable_of_compile h entry member).1

/-- Without custom tags, marks come into commands by ids and bindings only. -/
theorem tidy_of_compile (custom : surroundings.registry = .empty)
    (h : (compile surroundings overrides source).result = .ok template) :
    ∀ root ∈ template.roots, root.Tidy := by
  have declared := named_of_compile h
  obtain ⟨document, _, vars, roots, parsed, _, _, built, rfl⟩ := compile_ok h
  have proper := (Reader.wellFormed_of_readDocument parsed).proper
  refine Assembly.tidy_of_buildAll ?_ ?_ ?_ built
  · intro tag
    rw [custom]
    rfl
  · exact declared
  · intro element member inner within
    exact proper inner (List.mem_flatMap.mpr ⟨element, member, within⟩)

end Template

end UiMarkup
