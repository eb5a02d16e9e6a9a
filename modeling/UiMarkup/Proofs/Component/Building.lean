import Mathlib.Data.List.Forall2
import UiMarkup.Proofs.Markup.Outcome
import UiMarkup.Template

namespace UiMarkup

theorem exists_getElem?_of_forall₂ {α β : Type} {related : α → β → Prop} {xs : List α} {ys : List β}
    (h : List.Forall₂ related xs ys) {i : Nat} {y : β} (found : ys[i]? = some y) :
    ∃ x, xs[i]? = some x ∧ related x y := by
  induction h generalizing i with
  | nil => simp at found
  | cons first _ ih =>
    cases i with
    | zero =>
      cases found
      exact ⟨_, rfl, first⟩
    | succ i => exact ih found

theorem exists_mem_of_forall₂ {α β : Type} {related : α → β → Prop} {xs : List α} {ys : List β}
    (h : List.Forall₂ related xs ys) {y : β} (member : y ∈ ys) : ∃ x ∈ xs, related x y := by
  obtain ⟨i, found⟩ := List.mem_iff_getElem?.mp member
  obtain ⟨x, here, isRelated⟩ := exists_getElem?_of_forall₂ h found
  exact ⟨x, List.mem_of_getElem? here, isRelated⟩

theorem forall₂_imp_of_mem {α β : Type} {related other : α → β → Prop} {xs : List α} {ys : List β}
    (h : List.Forall₂ related xs ys) (each : ∀ x ∈ xs, ∀ y, related x y → other x y) :
    List.Forall₂ other xs ys := by
  have both := (List.forall₂_and_left xs ys).mpr ⟨each, h⟩
  exact both.imp fun x y facts => facts.1 y facts.2

@[elab_as_elim]
theorem Element.induction {motive : Element → Prop}
    (step : ∀ element : Element,
      (∀ child, .element child ∈ element.children → motive child) → motive element)
    (element : Element) : motive element := by
  refine @Element.rec motive (fun children => ∀ child, .element child ∈ children → motive child)
    (fun content => ∀ child, content = .element child → motive child) ?_ ?_ ?_ ?_ ?_ element
  · intro tag position attributes children inside
    exact step _ inside
  · simp
  · intro first rest here inside child member
    rcases List.mem_cons.mp member with same | member
    · exact here child same.symm
    · exact inside child member
  · rintro inner here child ⟨⟩
    exact here
  · rintro text child ⟨⟩

theorem Content.mem_all_of_mem {contents : List (Content Element)} {child inner : Element}
    (member : .element child ∈ contents) (inside : inner ∈ child.all) : inner ∈ Content.all contents :=
  Content.mem_all_iff.mpr ⟨child, member, inside⟩

theorem Element.mem_all_of_child {element child inner : Element}
    (member : .element child ∈ element.children) (inside : inner ∈ child.all) : inner ∈ element.all :=
  Element.mem_all_iff.mpr (.inr (Content.mem_all_of_mem member inside))

def Content.texts : List (Content Element) → List String
  | [] => []
  | .element _ :: rest => Content.texts rest
  | .text first :: rest => first :: Content.texts rest

theorem Content.mem_texts_iff {contents : List (Content Element)} {text : String} :
    text ∈ Content.texts contents ↔ .text text ∈ contents := by
  induction contents with
  | nil => simp [Content.texts]
  | cons first rest ih => cases first <;> simp [Content.texts, ih]

namespace QualifiedTag

theorem written_ofTag (tag : String) : (ofTag tag).written = tag := by
  unfold ofTag
  split
  · rename_i qualifier c name found
    obtain ⟨parts, _⟩ := Text.cutAt?_eq_some_iff.mp found
    apply String.toList_injective
    rw [parts]
    simp [written]
  · rfl

theorem ofTag_of_head {tag : String} (head : tag.toList.head? ≠ some '$') :
    ofTag tag = ⟨none, tag⟩ := by
  unfold ofTag
  split
  · rename_i qualifier c name found
    obtain ⟨parts, _⟩ := Text.cutAt?_eq_some_iff.mp found
    rw [parts] at head
    exact absurd rfl head
  · rfl

theorem ofTag_cases (tag : String) :
    (∃ qualifier name, ofTag tag = ⟨some qualifier, name⟩) ∨ ofTag tag = ⟨none, tag⟩ := by
  unfold ofTag
  split
  · exact .inl ⟨_, _, rfl⟩
  · exact .inr rfl

end QualifiedTag

theorem Text.head?_ne_of_lower {text : String} {mark : Char} (small : mark.toLower = mark)
    (differs : (Text.lower text).toList.head? ≠ some mark) : text.toList.head? ≠ some mark := by
  intro head
  apply differs
  simp [Text.lower, Text.lowered, head, small]

namespace Defaults

def names : List String :=
  ["Group", "Label", "TextButton", "TextField", "NumberField", "ColorPicker", "CheckBoxWithLabel",
    "MultilineTextField", "AssetImage", "DropdownBox", "DropdownEntry", "ProgressBar"]

def properties : List String :=
  ["Anchor", "LayoutMode", "PasswordChar", "Style"]

inductive Starts : Node → Prop
  | bare {name : String} (among : name ∈ names) (bearing : Bool) :
      Starts ⟨some name, none, [], [], bearing⟩
  | one {name key : String} (among : name ∈ names) (isKey : key ∈ properties) (value : Value)
      (bearing : Bool) : Starts ⟨some name, none, [(key, value)], [], bearing⟩

theorem starts_input (attributes : Fields String) : Starts (input attributes) := by
  unfold input
  split
  · exact .one (by decide) (by decide) _ _
  all_goals exact .bare (by decide) _

theorem starts_component? {tag : String} {attributes : Fields String} {node : Node}
    (made : component? tag attributes = some node) : Starts node := by
  unfold component? at made
  split at made
  all_goals cases made
  all_goals first
    | exact .bare (by decide) _
    | exact .one (by decide) (by decide) _ _
    | exact starts_input attributes

end Defaults

namespace Resolution

theorem resolve_of_unmarked {surroundings : Surroundings} {aliases : Aliases} {tag : String}
    (unqualified : QualifiedTag.ofTag tag = ⟨none, tag⟩)
    (noUnderscore : tag.toList.head? ≠ some '_')
    (unregistered : surroundings.registry.factory? tag = none) (attributes : Fields String) :
    resolve surroundings aliases (.ofTag tag) attributes = Warned.ofExcept (plain tag attributes) := by
  rw [unqualified]
  unfold resolve
  simp only [QualifiedTag.written, unregistered]
  split
  · rename_i name letters
    rw [letters] at noUnderscore
    exact absurd rfl noUnderscore
  · rfl

/-- How a tag comes to its component, one case for each way. -/
inductive Resolves (surroundings : Surroundings) (aliases : Aliases) (tag : QualifiedTag)
    (attributes : Fields String) : Node → Origin → Prop
  | custom {factory : Factory} (found : surroundings.registry.factory? tag.written = some factory) :
      Resolves surroundings aliases tag attributes (factory attributes) .custom
  | qualified {qualifier known : String} (isQualified : tag.qualifier = some qualifier)
      (found : aliases.resolve? qualifier = some known) :
      Resolves surroundings aliases tag attributes (.textual (known ++ ".@" ++ tag.name)) .qualified
  | intern {node : Node} {name : List Char} (isPlain : tag.qualifier = none)
      (underscore : tag.name.toList = '_' :: name)
      (made : (Resolution.intern surroundings (Text.lower (String.ofList name)) attributes).result =
        .ok node) :
      Resolves surroundings aliases tag attributes node .intern
  | usual {node : Node} (isPlain : tag.qualifier = none)
      (made : Defaults.component? (Text.lower tag.name) attributes = some node) :
      Resolves surroundings aliases tag attributes node .usual
  | named (isPlain : tag.qualifier = none)
      (capital : (tag.name.toList.head?.map Text.isCapital).getD false = true) :
      Resolves surroundings aliases tag attributes (.textual tag.name) .named

theorem plain_ok {name : String} {attributes : Fields String} {node : Node} {origin : Origin}
    (h : plain name attributes = .ok (node, origin)) :
    (Defaults.component? (Text.lower name) attributes = some node ∧ origin = .usual) ∨
      (node = .textual name ∧ origin = .named ∧
        (name.toList.head?.map Text.isCapital).getD false = true) := by
  unfold plain at h
  split at h
  · rename_i made
    cases h
    exact .inl ⟨made, rfl⟩
  · split at h
    · cases h
    · split at h
      · rename_i capital
        cases h
        exact .inr ⟨rfl, rfl, capital⟩
      · cases h

theorem resolve_ok {surroundings : Surroundings} {aliases : Aliases} {tag : QualifiedTag}
    {attributes : Fields String} {node : Node} {origin : Origin}
    (h : (resolve surroundings aliases tag attributes).result = .ok (node, origin)) :
    Resolves surroundings aliases tag attributes node origin := by
  unfold resolve at h
  split at h
  · rename_i factory found
    cases h
    exact .custom found
  · split at h
    · rename_i qualifier isQualified
      split at h
      · rename_i known found
        cases h
        exact .qualified isQualified found
      · cases h
    · rename_i isPlain
      split at h
      · rename_i name underscore
        rw [Warned.result_bind] at h
        obtain ⟨made, interned, done⟩ := ok_of_bind h
        cases done
        exact .intern isPlain underscore interned
      · rcases plain_ok h with ⟨made, rfl⟩ | ⟨rfl, rfl, capital⟩
        · exact .usual isPlain made
        · exact .named isPlain capital

theorem intern_ok {surroundings : Surroundings} {name : String} {attributes : Fields String}
    {node : Node} (h : (intern surroundings name attributes).result = .ok node) :
    (name = "image" ∧ image surroundings attributes = .ok node) ∨
      (name = "anchor" ∧ ∃ id, node = .anchor id) ∨ node = .component "Group" := by
  unfold intern at h
  split at h
  · rename_i isImage
    exact .inl ⟨isImage, h⟩
  · split at h
    · rename_i isAnchor
      split at h
      · rename_i id found
        split at h
        · cases h
          exact .inr (.inr rfl)
        · cases h
          exact .inr (.inl ⟨isAnchor, id, rfl⟩)
      · cases h
        exact .inr (.inr rfl)
    · cases h
      exact .inr (.inr rfl)

theorem image_draws {surroundings : Surroundings} {attributes : Fields String} {node : Node}
    (h : image surroundings attributes = .ok node) :
    ∃ picture, Raster.draw attributes picture = .ok node := by
  unfold image at h
  simp only at h
  split at h
  · rename_i drawn isDrawn
    cases h
    split at isDrawn
    · cases isDrawn
    · obtain ⟨picture, _, isDrawn⟩ := ok_of_bind isDrawn
      exact ⟨picture, isDrawn⟩
  · cases h

theorem image_ok {surroundings : Surroundings} {attributes : Fields String} {node : Node}
    (h : image surroundings attributes = .ok node) :
    ∃ side width height rows, node = Raster.drawing side width height rows := by
  obtain ⟨picture, isDrawn⟩ := image_draws h
  obtain ⟨size, _, isDrawn⟩ := ok_of_bind isDrawn
  obtain ⟨side, _, done⟩ := ok_of_bind isDrawn
  cases done
  exact ⟨side, _, _, _, rfl⟩

end Resolution

def Attribute.ownProperty (given : Attribute) : String :=
  Assembly.propertyName (if given.binding then given.name else Text.lower given.name)

namespace Assembly

def renamedProperties : List String :=
  ["AssetPath", "PlaceholderText", "TooltipText", "Disabled", "Value", "Visible", "MaxLength"]

/-- All that an attribute can do to a component. -/
inductive Dresses (origin : Origin) (given : Attribute) (node : Node) : Node → Prop
  | nothing : Dresses origin given node node
  | id (id : String) : Dresses origin given node (node.setId id)
  | style {block : String} {properties : Properties} (parsed : Style.parse block = .ok properties) :
      Dresses origin given node (node.setAll properties)
  | text (text : String) : Dresses origin given node (node.setText text)
  | renamed {key : String} (among : key ∈ renamedProperties) (value : Value) :
      Dresses origin given node (node.set key value)
  | own (how : given.binding = true ∨
        (origin.ownsAttributes = false ∧ Text.lower given.name ≠ "text")) (value : Value) :
      Dresses origin given node (node.set given.ownProperty value)

section Attributes

variable {vars : Variables} {origin : Origin} {node changed : Node} {given : Attribute}

theorem dresses_applyPlain {name : String} (isName : Text.lower given.name = name)
    (static : given.binding = false) (unowned : origin.ownsAttributes = false) (value : Option String) :
    Dresses origin given node (applyPlain node name value) := by
  unfold applyPlain
  simp only
  split
  · exact .nothing
  · exact .nothing
  · exact .text _
  · exact .renamed (by decide) _
  · exact .renamed (by decide) _
  · exact .renamed (by decide) _
  · exact .renamed (by decide) _
  · exact .renamed (by decide) _
  · exact .renamed (by decide) _
  · exact .renamed (by decide) _
  · exact .renamed (by decide) _
  · rename_i notText _ _ _ _ _ _ _ _
    have own : propertyName name = given.ownProperty := by
      rw [Attribute.ownProperty, static, isName]
      rfl
    rw [← isName] at notText
    rw [own]
    exact .own (.inr ⟨unowned, notText⟩) _

theorem dresses_applyAttribute (h : applyAttribute vars origin node given = .ok changed) :
    Dresses origin given node changed := by
  unfold applyAttribute at h
  simp only at h
  split at h
  · rename_i binding
    have own : propertyName given.name = given.ownProperty := by
      rw [Attribute.ownProperty, if_pos binding]
    cases h
    rw [own]
    exact .own (.inl binding) _
  · rename_i static
    split at h
    · cases h
      exact .id _
    · split at h
      · obtain ⟨properties, parsed, done⟩ := ok_of_bind h
        cases done
        exact .style parsed
      · split at h
        · cases h
          exact .nothing
        · rename_i unowned
          cases h
          exact dresses_applyPlain rfl (Bool.eq_false_iff.mpr static) (Bool.eq_false_iff.mpr unowned) _

end Attributes

structure SameFrame (node other : Node) : Prop where
  name : node.name = other.name
  children : node.children = other.children
  textBearing : node.textBearing = other.textBearing

theorem SameFrame.refl (node : Node) : SameFrame node node :=
  ⟨rfl, rfl, rfl⟩

theorem SameFrame.trans {first second third : Node} (h : SameFrame first second)
    (k : SameFrame second third) : SameFrame first third :=
  ⟨h.name.trans k.name, h.children.trans k.children, h.textBearing.trans k.textBearing⟩

theorem sameFrame_setText (node : Node) (text : String) : SameFrame (node.setText text) node := by
  unfold Node.setText
  split <;> exact ⟨rfl, rfl, rfl⟩

theorem Dresses.sameFrame {origin : Origin} {given : Attribute} {node changed : Node}
    (h : Dresses origin given node changed) : SameFrame changed node := by
  cases h with
  | text text => exact sameFrame_setText node text
  | _ => exact ⟨rfl, rfl, rfl⟩

theorem sameFrame_applyAttributes {vars : Variables} {origin : Origin} {node changed : Node}
    {attributes : List Attribute} (h : applyAttributes vars origin node attributes = .ok changed) :
    SameFrame changed node := by
  induction attributes generalizing node with
  | nil =>
    cases h
    exact .refl _
  | cons given rest ih =>
    obtain ⟨first, applied, others⟩ := ok_of_bind h
    exact (ih others).trans (dresses_applyAttribute applied).sameFrame

def isShown (textBearing : Bool) : Content Element → Bool
  | .element _ => true
  | .text _ => !textBearing

def shown (textBearing : Bool) (contents : List (Content Element)) : List (Content Element) :=
  contents.filter (isShown textBearing)

def Makes (surroundings : Surroundings) (scope : Scope) : Content Element → Node → Prop
  | .element element, node => (build surroundings scope element).result = .ok node
  | .text text, node => node = label (scope.vars.substitute text)

section Outcome

variable {surroundings : Surroundings} {scope : Scope}

theorem fill_frame (node : Node) (nodes : List Node) (texts : List String) :
    SameFrame (fill node nodes texts) { node with children := node.children ++ nodes } := by
  unfold fill
  simp only
  split
  · exact .refl _
  · exact sameFrame_setText _ _

theorem buildContents_ok {textBearing : Bool} {contents : List (Content Element)}
    {nodes : List Node} {texts : List String}
    (h : (buildContents surroundings scope textBearing contents).result = .ok (nodes, texts)) :
    List.Forall₂ (Makes surroundings scope) (shown textBearing contents) nodes := by
  induction contents generalizing nodes texts with
  | nil =>
    rw [buildContents] at h
    cases h
    exact .nil
  | cons content rest ih =>
    cases content with
    | element element =>
      rw [buildContents, Warned.result_bind] at h
      obtain ⟨node, built, h⟩ := ok_of_bind h
      rw [Warned.result_bind] at h
      obtain ⟨⟨others, more⟩, inside, done⟩ := ok_of_bind h
      cases done
      exact .cons built (ih inside)
    | text text =>
      rw [buildContents, Warned.result_bind] at h
      obtain ⟨⟨others, more⟩, inside, done⟩ := ok_of_bind h
      cases textBearing with
      | true =>
        cases done
        exact ih inside
      | false =>
        cases done
        exact .cons rfl (ih inside)

theorem texts_of_buildContents {textBearing : Bool} {contents : List (Content Element)}
    {nodes : List Node} {texts : List String}
    (h : (buildContents surroundings scope textBearing contents).result = .ok (nodes, texts)) :
    texts = if textBearing then (Content.texts contents).map scope.vars.substitute else [] := by
  induction contents generalizing nodes texts with
  | nil =>
    rw [buildContents] at h
    cases h
    cases textBearing <;> rfl
  | cons content rest ih =>
    cases content with
    | element element =>
      rw [buildContents, Warned.result_bind] at h
      obtain ⟨node, built, h⟩ := ok_of_bind h
      rw [Warned.result_bind] at h
      obtain ⟨⟨others, more⟩, inside, done⟩ := ok_of_bind h
      cases done
      exact ih inside
    | text text =>
      rw [buildContents, Warned.result_bind] at h
      obtain ⟨⟨others, more⟩, inside, done⟩ := ok_of_bind h
      have rest := ih inside
      cases textBearing with
      | true =>
        cases done
        rw [rest]
        rfl
      | false =>
        cases done
        exact rest

/-- The parts of a component that is built: what its tag stands for, the attributes applied to that,
and the components and texts inside. -/
theorem build_parts {element : Element} {node : Node}
    (h : (build surroundings scope element).result = .ok node) :
    ∃ bare origin dressed nodes texts,
      (Resolution.resolve surroundings scope.aliases (.ofTag element.tag)
        (attributeFields scope.vars element.attributes)).result = .ok (bare, origin) ∧
      applyAttributes scope.vars origin bare element.attributes = .ok dressed ∧
      (buildContents surroundings scope dressed.textBearing element.children).result =
        .ok (nodes, texts) ∧
      node = fill dressed nodes texts := by
  obtain ⟨tag, position, attributes, children⟩ := element
  rw [build, Warned.result_bind] at h
  obtain ⟨⟨bare, origin⟩, resolved, h⟩ := ok_of_bind h
  rw [Warned.result_bind] at h
  obtain ⟨dressed, applied, h⟩ := ok_of_bind h
  rw [Warned.result_bind] at h
  obtain ⟨⟨nodes, texts⟩, inside, done⟩ := ok_of_bind h
  cases done
  exact ⟨bare, origin, dressed, nodes, texts, resolved, applied, inside, rfl⟩

theorem build_ok {element : Element} {node : Node}
    (h : (build surroundings scope element).result = .ok node) :
    ∃ bare origin dressed nodes texts,
      (Resolution.resolve surroundings scope.aliases (.ofTag element.tag)
        (attributeFields scope.vars element.attributes)).result = .ok (bare, origin) ∧
      applyAttributes scope.vars origin bare element.attributes = .ok dressed ∧
      List.Forall₂ (Makes surroundings scope) (shown dressed.textBearing element.children) nodes ∧
      node = fill dressed nodes texts := by
  obtain ⟨bare, origin, dressed, nodes, texts, resolved, applied, inside, same⟩ := build_parts h
  exact ⟨bare, origin, dressed, nodes, texts, resolved, applied, buildContents_ok inside, same⟩

/-- A component keeps the frame of what its tag stands for; the components of what is shown inside
the element follow its own children. -/
theorem build_frame {element : Element} {node : Node}
    (h : (build surroundings scope element).result = .ok node) :
    ∃ bare origin nodes,
      (Resolution.resolve surroundings scope.aliases (.ofTag element.tag)
        (attributeFields scope.vars element.attributes)).result = .ok (bare, origin) ∧
      List.Forall₂ (Makes surroundings scope) (shown bare.textBearing element.children) nodes ∧
      SameFrame node { bare with children := bare.children ++ nodes } := by
  obtain ⟨bare, origin, dressed, nodes, texts, resolved, applied, inside, rfl⟩ := build_ok h
  have frame := sameFrame_applyAttributes applied
  rw [frame.textBearing] at inside
  refine ⟨bare, origin, nodes, resolved, inside, (fill_frame dressed nodes texts).trans ?_⟩
  exact ⟨frame.name, by rw [frame.children], frame.textBearing⟩

theorem buildAll_ok {elements : List Element} {roots : List Node}
    (h : (buildAll surroundings scope elements).result = .ok roots) :
    List.Forall₂ (Makes surroundings scope) (elements.map .element) roots := by
  induction elements generalizing roots with
  | nil =>
    cases h
    exact .nil
  | cons element rest ih =>
    rw [buildAll, Warned.result_bind] at h
    obtain ⟨node, built, h⟩ := ok_of_bind h
    rw [Warned.result_bind] at h
    obtain ⟨others, inside, done⟩ := ok_of_bind h
    cases done
    exact .cons built (ih inside)

end Outcome

end Assembly

theorem Template.compile_ok {surroundings : Surroundings} {overrides : Fields String} {source : String}
    {template : Template} (h : (compile surroundings overrides source).result = .ok template) :
    ∃ document declared vars roots, Document.parse source = .ok document ∧
      (scopeOf document).result = .ok declared ∧
      declared.vars.setAll (sortedPairs overrides) = .ok vars ∧
      (Assembly.buildAll surroundings ⟨vars, declared.aliases⟩ document.elements).result = .ok roots ∧
      template = ⟨roots, vars, declared.aliases⟩ := by
  rw [compile, Warned.result_bind] at h
  obtain ⟨document, parsed, h⟩ := ok_of_bind h
  rw [Warned.result_bind, scopeWith, Warned.result_bind] at h
  obtain ⟨scope, inScope, h⟩ := ok_of_bind h
  obtain ⟨declared, evaluated, inScope⟩ := ok_of_bind inScope
  rw [Warned.result_bind] at inScope
  obtain ⟨vars, given, done⟩ := ok_of_bind inScope
  cases done
  rw [Warned.result_bind] at h
  obtain ⟨roots, built, done⟩ := ok_of_bind h
  cases done
  exact ⟨document, declared, vars, roots, parsed, evaluated, given, built, rfl⟩

end UiMarkup
