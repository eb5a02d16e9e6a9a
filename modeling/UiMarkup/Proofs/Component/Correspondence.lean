import UiMarkup.Proofs.Component.ShownText

namespace UiMarkup

namespace Node

inductive Shows (node : Node) : String → Prop
  | key {key : String} (filled : key ≠ "") (hasKey : node.property? "TextKey" = some (.text key))
      (noText : node.property? "Text" = none) : Shows node ("%" ++ key)
  | text {text : String} (noKey : ∀ key, key ≠ "" → text ≠ "%" ++ key)
      (hasText : node.property? "Text" = some (.text text))
      (noTextKey : node.property? "TextKey" = none) : Shows node text

theorem textKey?_eq_some_iff {text key : String} :
    textKey? text = some key ↔ key ≠ "" ∧ text = "%" ++ key := by
  unfold textKey?
  constructor
  · intro found
    split at found
    · rename_i c rest letters
      cases found
      constructor
      · intro empty
        have none := congrArg String.toList empty
        simp at none
      · apply String.toList_injective
        rw [letters]
        simp
    · cases found
  · rintro ⟨filled, rfl⟩
    cases letters : key.toList with
    | nil => exact absurd (String.toList_eq_nil_iff.mp letters) filled
    | cons c rest =>
      have same : String.ofList (c :: rest) = key := by rw [← letters, String.ofList_toList]
      simp [letters, same]

theorem shows_setText {node : Node} (distinct : node.Distinct) (text : String) :
    (node.setText text).Shows text := by
  unfold setText
  cases found : textKey? text with
  | some key =>
    obtain ⟨filled, rfl⟩ := textKey?_eq_some_iff.mp found
    have absent : Fields.value? (Fields.without node.properties "Text") "Text" = none :=
      Fields.value?_without_self distinct "Text"
    refine .key filled (Fields.value?_put_self _ _ _) ?_
    rw [property?, Fields.value?_put_of_ne _ _ (by decide), absent]
  | none =>
    have absent : Fields.value? (Fields.without node.properties "TextKey") "TextKey" = none :=
      Fields.value?_without_self distinct "TextKey"
    refine .text ?_ (Fields.value?_put_self _ _ _) ?_
    · intro key filled same
      rw [textKey?_eq_some_iff.mpr ⟨filled, same⟩] at found
      cases found
    · rw [property?, Fields.value?_put_of_ne _ _ (by decide), absent]

mutual

def count : Node → Nat
  | ⟨_, _, _, children, _⟩ => countAll children + 1

def countAll : List Node → Nat
  | [] => 0
  | node :: rest => node.count + countAll rest

end

theorem count_eq (node : Node) : node.count = countAll node.children + 1 := by
  cases node
  rw [count]

end Node

namespace Assembly

/-- A component that corresponds to a content, and its children to what is inside that. A text has a
label of its own. The component of an element has a child for each element inside, and for each text
unless it bears text; then it shows all texts inside, with a space between them. -/
inductive Mirrors (surroundings : Surroundings) (scope : Scope) : Content Element → Node → Prop
  | text {text : String} {node : Node} (isLabel : node.name = some "Label")
      (childless : node.children = []) (shows : node.Shows (scope.vars.substitute text)) :
      Mirrors surroundings scope (.text text) node
  | element {element : Element} {node : Node}
      (built : (build surroundings scope element).result = .ok node)
      (inside : List.Forall₂ (Mirrors surroundings scope) (shown node.textBearing element.children)
        node.children)
      (shows : node.textBearing = true → Content.texts element.children ≠ [] →
        node.Shows (String.intercalate " " ((Content.texts element.children).map scope.vars.substitute))) :
      Mirrors surroundings scope (.element element) node

variable {surroundings : Surroundings} {scope : Scope}

theorem mirrors_label (text : String) :
    Mirrors surroundings scope (.text text) (label (scope.vars.substitute text)) := by
  have frame := sameFrame_label (scope.vars.substitute text)
  have blank : (Node.textual "Label").Silent := Node.silent_of_properties rfl
  exact .text frame.name frame.children (Node.shows_setText blank.distinct _)

theorem shows_fill {node : Node} (distinct : node.Distinct) (nodes : List Node) {texts : List String}
    (some : texts ≠ []) : (fill node nodes texts).Shows (String.intercalate " " texts) := by
  have filled : Node.Distinct { node with children := node.children ++ nodes } := distinct
  have shown := Node.shows_setText filled (String.intercalate " " texts)
  cases texts with
  | nil => contradiction
  | cons text texts => exact shown

theorem mirrors_of_build (unregistered : ∀ tag, surroundings.registry.factory? tag = none)
    (element : Element) : ∀ {node : Node}, (∀ inner ∈ element.all, isImage inner.tag = false) →
      (build surroundings scope element).result = .ok node →
      Mirrors surroundings scope (.element element) node := by
  induction element using Element.induction with
  | step element ih =>
    intro node noImages built
    obtain ⟨bare, origin, dressed, nodes, texts, resolved, applied, inside, isNode⟩ := build_parts built
    have resolves := Resolution.resolve_ok resolved
    have silent := Resolution.silent_of_resolves unregistered resolves
    have distinct := distinct_applyAttributes silent.distinct applied
    have frame := fill_frame dressed nodes texts
    have childless : dressed.children = [] := by
      rw [(sameFrame_applyAttributes applied).children]
      exact Resolution.children_of_resolves (unregistered _) (noImages element element.self_mem_all) resolves
    have children : node.children = nodes := by
      rw [isNode, frame.children, childless]
      rfl
    have bearing : node.textBearing = dressed.textBearing := by
      rw [isNode, frame.textBearing]
    refine .element built ?_ ?_
    · rw [bearing, children]
      have each : ∀ content ∈ shown dressed.textBearing element.children, ∀ node,
          Makes surroundings scope content node → Mirrors surroundings scope content node := by
        intro content member inner made
        cases content with
        | text text =>
          obtain rfl : inner = label _ := made
          exact mirrors_label text
        | element child =>
          have isChild := List.mem_of_mem_filter member
          exact ih child isChild (fun deeper within =>
            noImages deeper (Element.mem_all_of_child isChild within)) made
      exact forall₂_imp_of_mem (buildContents_ok inside) each
    · intro bears some
      have borne := texts_of_buildContents inside
      rw [← bearing, bears, if_pos rfl] at borne
      rw [isNode, ← borne]
      apply shows_fill distinct
      rw [borne]
      simpa using some

def bearsText (surroundings : Surroundings) (scope : Scope) (element : Element) : Bool :=
  match (build surroundings scope element).result with
  | .ok node => node.textBearing
  | .error _ => false

/-- What has a component of its own: an element, and the texts right inside it unless its component
bears them. -/
def ownParts (surroundings : Surroundings) (scope : Scope) (element : Element) : List (Content Element) :=
  .element element ::
    if bearsText surroundings scope element then [] else (Content.texts element.children).map .text

def parts (surroundings : Surroundings) (scope : Scope) : Content Element → List (Content Element)
  | .element element => element.all.flatMap (ownParts surroundings scope)
  | .text text => [.text text]

theorem length_parts_shown (bearing : Bool) (contents : List (Content Element)) :
    ((shown bearing contents).flatMap (parts surroundings scope)).length =
      ((Content.all contents).flatMap (ownParts surroundings scope)).length +
        if bearing then 0 else (Content.texts contents).length := by
  induction contents with
  | nil => cases bearing <;> rfl
  | cons content rest ih =>
    cases content with
    | element element =>
      have first : shown bearing (.element element :: rest) = .element element :: shown bearing rest := rfl
      rw [first, List.flatMap_cons, List.length_append, ih, Content.all, List.flatMap_append,
        List.length_append, Content.texts, parts, Nat.add_assoc]
    | text text =>
      cases bearing with
      | true => exact ih
      | false =>
        have first : shown false (.text text :: rest) = .text text :: shown false rest := rfl
        rw [first, List.flatMap_cons, List.length_append, ih, Content.all, Content.texts, parts]
        simp only [Bool.false_eq_true, ↓reduceIte, List.length_cons, List.length_nil]
        omega

theorem countAll_of_forall₂ {related : Content Element → Node → Prop}
    {own : Content Element → List (Content Element)} {contents : List (Content Element)}
    {nodes : List Node} (h : List.Forall₂ related contents nodes)
    (each : ∀ content ∈ contents, ∀ node, related content node → node.count = (own content).length) :
    Node.countAll nodes = (contents.flatMap own).length := by
  induction h with
  | nil => rfl
  | cons first others ih =>
    have here := each _ List.mem_cons_self _ first
    have rest := ih fun content member => each content (List.mem_cons_of_mem _ member)
    rw [Node.countAll, here, rest, List.flatMap_cons, List.length_append]

theorem count_of_mirrors (element : Element) : ∀ {node : Node},
    Mirrors surroundings scope (.element element) node →
      node.count = (parts surroundings scope (.element element)).length := by
  induction element using Element.induction with
  | step element ih =>
    intro node mirrors
    cases mirrors with
    | element built inside shows =>
      have bearing : bearsText surroundings scope element = node.textBearing := by
        rw [bearsText, built]
      have each : ∀ content ∈ shown node.textBearing element.children, ∀ inner,
          Mirrors surroundings scope content inner →
            inner.count = (parts surroundings scope content).length := by
        intro content member inner mirrors
        cases content with
        | text text =>
          cases mirrors with
          | text isLabel childless shows =>
            rw [Node.count_eq, childless]
            rfl
        | element child => exact ih child (List.mem_of_mem_filter member) mirrors
      have children := countAll_of_forall₂ inside each
      have own : (ownParts surroundings scope element).length =
          (if node.textBearing then 0 else (Content.texts element.children).length) + 1 := by
        rw [ownParts, bearing]
        cases node.textBearing <;> simp
      rw [length_parts_shown] at children
      rw [Node.count_eq, children, parts, Element.all_eq, List.flatMap_cons, List.length_append, own]
      omega

theorem length_ownParts (elements : List Element) :
    (elements.flatMap (ownParts surroundings scope)).length = elements.length +
      ((elements.filter fun element => !bearsText surroundings scope element).flatMap fun element =>
        Content.texts element.children).length := by
  induction elements with
  | nil => rfl
  | cons element rest ih =>
    rw [List.flatMap_cons, List.length_append, ih, ownParts, List.length_cons, List.length_cons,
      List.filter_cons]
    cases bearsText surroundings scope element with
    | true =>
      simp only [Bool.not_true, Bool.false_eq_true, ↓reduceIte, List.length_nil]
      omega
    | false =>
      simp only [Bool.not_false, Bool.false_eq_true, ↓reduceIte, List.flatMap_cons, List.length_append,
        List.length_map]
      omega

end Assembly

namespace Template

/-- Nothing is lost, doubled or moved. Without custom tags and pictures, the components of a template
correspond to the elements outside of all others, one to one and in order, and so do their children to
what is inside those. There are as many components as elements, and one more for each text right
inside an element whose component does not bear text. -/
theorem mirrors_of_compile {surroundings : Surroundings} {overrides : Fields String} {source : String}
    {template : Template} (custom : surroundings.registry = .empty)
    (noImages : ∀ document, Document.parse source = .ok document →
      ∀ element ∈ document.all, Assembly.isImage element.tag = false)
    (compiled : (compile surroundings overrides source).result = .ok template) :
    ∃ document, Document.parse source = .ok document ∧
      List.Forall₂ (Assembly.Mirrors surroundings ⟨template.vars, template.aliases⟩)
        (document.elements.map .element) template.roots ∧
      Node.countAll template.roots = document.all.length +
        ((document.all.filter fun element =>
          !Assembly.bearsText surroundings ⟨template.vars, template.aliases⟩ element).flatMap fun element =>
            Content.texts element.children).length := by
  obtain ⟨document, declared, vars, roots, parsed, _, _, built, rfl⟩ := compile_ok compiled
  have unregistered := Registry.factory?_of_empty custom
  have each : ∀ content ∈ document.elements.map .element, ∀ node,
      Assembly.Makes surroundings ⟨vars, declared.aliases⟩ content node →
        Assembly.Mirrors surroundings ⟨vars, declared.aliases⟩ content node := by
    intro content member node made
    obtain ⟨element, among, rfl⟩ := List.mem_map.mp member
    refine Assembly.mirrors_of_build unregistered element ?_ made
    intro inner within
    exact noImages document parsed inner (List.mem_flatMap.mpr ⟨element, among, within⟩)
  have mirrors := forall₂_imp_of_mem (Assembly.buildAll_ok built) each
  refine ⟨document, parsed, mirrors, ?_⟩
  have count := Assembly.countAll_of_forall₂ mirrors (by
    intro content member node isMirror
    obtain ⟨element, among, rfl⟩ := List.mem_map.mp member
    exact Assembly.count_of_mirrors element isMirror)
  have total : (document.elements.map .element).flatMap
      (Assembly.parts surroundings ⟨vars, declared.aliases⟩) =
        document.all.flatMap (Assembly.ownParts surroundings ⟨vars, declared.aliases⟩) := by
    rw [Document.all, List.flatMap_map, List.flatMap_assoc]
    rfl
  rw [count, total, Assembly.length_ownParts]

theorem mirrors_of_compile_paragraph :
    let surroundings : Surroundings := ⟨.empty, fun _ => .directory, none⟩
    let source := "<div>@A<p :text='t' text-key='k'>x<b>y</b>@A</p>%<br/></div><hr/>"
    ∃ template document, (compile surroundings [("A", "%menu")] source).result = .ok template ∧
      template.commands =
        ["Group \x7b Label \x7b TextKey: \"menu\"; \x7d " ++
          "Label \x7b Text: \"x %menu\"; Label \x7b Style: (RenderBold: true); Text: \"y\"; \x7d \x7d " ++
          "Label \x7b Text: \"%\"; \x7d Group \x7b \x7d \x7d",
        "Group \x7b Anchor: (Height: 1); \x7d"] ∧
      Document.parse source = .ok document ∧
      (∀ element ∈ document.all, Assembly.isImage element.tag = false) ∧
      List.Forall₂ (Assembly.Mirrors surroundings ⟨template.vars, template.aliases⟩)
        (document.elements.map .element) template.roots ∧
      document.all.length = 5 ∧ Node.countAll template.roots = 7 := by
  intro surroundings source
  obtain ⟨template, compiled, seen⟩ := ok_of_toOption_map
    (show (compile surroundings [("A", "%menu")] source).result.toOption.map (fun template =>
        (template.commands, Node.countAll template.roots)) =
      some (["Group \x7b Label \x7b TextKey: \"menu\"; \x7d " ++
          "Label \x7b Text: \"x %menu\"; Label \x7b Style: (RenderBold: true); Text: \"y\"; \x7d \x7d " ++
          "Label \x7b Text: \"%\"; \x7d Group \x7b \x7d \x7d",
        "Group \x7b Anchor: (Height: 1); \x7d"], 7) by decide +kernel)
  obtain ⟨document, parsed, read⟩ := ok_of_toOption_map
    (show (Document.parse source).toOption.map (fun document =>
        (document.all.length, document.all.all fun element => !Assembly.isImage element.tag)) =
      some (5, true) by decide +kernel)
  obtain ⟨commands, count⟩ := Prod.mk.inj seen
  obtain ⟨elements, plain⟩ := Prod.mk.inj read
  have noImages : ∀ element ∈ document.all, Assembly.isImage element.tag = false := by
    intro element member
    simpa using List.all_eq_true.mp plain element member
  have every : ∀ other, Document.parse source = .ok other →
      ∀ element ∈ other.all, Assembly.isImage element.tag = false := by
    intro other parsedAgain
    cases parsed.symm.trans parsedAgain
    exact noImages
  obtain ⟨same, parsedAgain, mirrors, _⟩ := mirrors_of_compile rfl every compiled
  cases parsed.symm.trans parsedAgain
  exact ⟨template, document, compiled, commands, parsed, noImages, mirrors, elements, count⟩

end Template

end UiMarkup
