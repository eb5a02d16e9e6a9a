import UiMarkup.Component.Pictures
import UiMarkup.Proofs.Component.Building
import UiMarkup.Proofs.Markup.Completeness
import UiMarkup.Proofs.Markup.Soundness

namespace UiMarkup

inductive Shape where
  | node (children : List Shape)

namespace Node

mutual

def shape : Node → Shape
  | ⟨_, _, _, children, _⟩ => .node (shapes children)

def shapes : List Node → List Shape
  | [] => []
  | node :: rest => node.shape :: shapes rest

end

theorem shape_eq (node : Node) : node.shape = .node (shapes node.children) := by
  cases node
  rw [shape]

/-- The node at a position, which tells the root, then the child of that, and so on. -/
def at? : List Node → List Nat → Option Node
  | _, [] => none
  | nodes, [i] => nodes[i]?
  | nodes, i :: j :: path =>
    match nodes[i]? with
    | some node => at? node.children (j :: path)
    | none => none

end Node

def Content.inside (textBearing : Bool) : Content Element → List (Content Element)
  | .element outer => Assembly.shown textBearing outer.children
  | .text _ => []

/-- The content from which the node at a position comes, where the roots come from `contents`. -/
def source? : List Node → List (Content Element) → List Nat → Option (Content Element)
  | _, _, [] => none
  | _, contents, [i] => contents[i]?
  | nodes, contents, i :: j :: path =>
    match nodes[i]?, contents[i]? with
    | some node, some content => source? node.children (content.inside node.textBearing) (j :: path)
    | _, _ => none

def Content.isVariable : Content Element → Bool
  | .element outer => ["input", "_anchor"].contains (Text.lower outer.tag)
  | .text _ => false

theorem Text.lower_of_underscore {tag : String} {name : List Char} (letters : tag.toList = '_' :: name) :
    Text.lower tag = "_" ++ Text.lower (String.ofList name) := by
  apply String.toList_injective
  rw [String.toList_append]
  simp only [Text.lower, Text.lowered, letters, String.toList_ofList, List.map_cons]
  rfl

theorem Text.eq_underscore_of_lower {tag : String} {name : List Char}
    (lowered : (Text.lower tag).toList = '_' :: name) : ∃ rest, tag.toList = '_' :: rest := by
  simp only [Text.lower, Text.lowered, String.toList_ofList] at lowered
  obtain ⟨c, rest, letters, low, _⟩ := List.map_eq_cons_iff.mp lowered
  have same : (c.toLower == '_') = (c == '_') :=
    @Reader.toLower_class Bool (· == '_') (by decide +kernel) c
  rw [low] at same
  rw [letters, show c = '_' by simpa using same.symm]
  exact ⟨rest, rfl⟩

namespace Defaults

theorem component?_congr {tag : String} (notInput : tag ≠ "input") (attributes others : Fields String) :
    component? tag attributes = component? tag others := by
  unfold component?
  split
  all_goals try rfl
  exact absurd rfl notInput

theorem children_component? {tag : String} {attributes : Fields String} {node : Node}
    (made : component? tag attributes = some node) : node.children = [] := by
  cases starts_component? made <;> rfl

end Defaults

namespace Resolution

variable {surroundings : Surroundings} {aliases : Aliases}

theorem resolve_of_underscore {tag : String} {name : List Char} (letters : tag.toList = '_' :: name)
    (unregistered : surroundings.registry.factory? tag = none) (attributes : Fields String) :
    resolve surroundings aliases (.ofTag tag) attributes = do
      let node ← intern surroundings (Text.lower (String.ofList name)) attributes
      return (node, .intern) := by
  have head : tag.toList.head? ≠ some '$' := by
    simp [letters]
  rw [QualifiedTag.ofTag_of_head head]
  unfold resolve
  simp only [QualifiedTag.written, unregistered, letters]

theorem intern_congr {name : String} (notImage : name ≠ "image") (notAnchor : name ≠ "anchor")
    (attributes others : Fields String) :
    intern surroundings name attributes = intern surroundings name others := by
  simp [intern, notImage, notAnchor]

theorem resolve_congr_attributes {tag : String} (unregistered : surroundings.registry.factory? tag = none)
    (settled : Text.lower tag ∉ ["input", "_anchor", "_image"]) (attributes others : Fields String) :
    resolve surroundings aliases (.ofTag tag) attributes =
      resolve surroundings aliases (.ofTag tag) others := by
  simp only [List.mem_cons, List.not_mem_nil, or_false, not_or] at settled
  obtain ⟨notInput, notAnchor, notImage⟩ := settled
  have written := QualifiedTag.written_ofTag tag
  rcases QualifiedTag.ofTag_cases tag with ⟨qualifier, name, parts⟩ | parts
  · rw [parts] at written ⊢
    unfold resolve
    simp only [written, unregistered]
  · by_cases underscore : ∃ name, tag.toList = '_' :: name
    · obtain ⟨name, letters⟩ := underscore
      have lowered := Text.lower_of_underscore letters
      rw [resolve_of_underscore letters unregistered, resolve_of_underscore letters unregistered,
        intern_congr _ _ attributes others]
      · rintro isImage
        exact notImage (by rw [lowered, isImage]; rfl)
      · rintro isAnchor
        exact notAnchor (by rw [lowered, isAnchor]; rfl)
    · have noUnderscore : tag.toList.head? ≠ some '_' := mt List.head?_eq_some_iff.mp underscore
      rw [resolve_of_unmarked parts noUnderscore unregistered,
        resolve_of_unmarked parts noUnderscore unregistered, plain, plain,
        Defaults.component?_congr notInput attributes others]

theorem children_of_resolves {tag : String} {attributes : Fields String} {bare : Node}
    {origin : Origin} (unregistered : surroundings.registry.factory? tag = none)
    (notImage : Assembly.isImage tag = false)
    (h : Resolves surroundings aliases (.ofTag tag) attributes bare origin) : bare.children = [] := by
  cases h with
  | custom found =>
    rw [QualifiedTag.written_ofTag, unregistered] at found
    cases found
  | qualified => rfl
  | intern isPlain underscore made =>
    rcases QualifiedTag.ofTag_cases tag with ⟨qualifier, name, parts⟩ | parts
    · rw [parts] at isPlain
      cases isPlain
    · rw [parts] at underscore
      rcases intern_ok made with ⟨isImage, _⟩ | ⟨_, id, rfl⟩ | rfl
      · have lowered := Text.lower_of_underscore underscore
        rw [isImage] at lowered
        rw [Assembly.isImage, lowered] at notImage
        cases notImage
      · rfl
      · rfl
  | usual isPlain made => exact Defaults.children_component? made
  | named => rfl

theorem textBearing_of_anchor {tag : String} {attributes : Fields String} {bare : Node}
    {origin : Origin} (unregistered : surroundings.registry.factory? tag = none)
    (isAnchor : Text.lower tag = "_anchor")
    (h : (resolve surroundings aliases (.ofTag tag) attributes).result = .ok (bare, origin)) :
    bare.textBearing = false := by
  obtain ⟨name, letters⟩ : ∃ name, tag.toList = '_' :: name :=
    Text.eq_underscore_of_lower (congrArg String.toList isAnchor)
  rw [resolve_of_underscore letters unregistered, Warned.result_bind] at h
  obtain ⟨node, made, done⟩ := ok_of_bind h
  cases done
  rcases intern_ok made with ⟨isImage, _⟩ | ⟨_, id, rfl⟩ | rfl
  · rw [Text.lower_of_underscore letters, isImage] at isAnchor
    exact absurd isAnchor (by decide)
  · rfl
  · rfl

end Resolution

structure Element.Quiet (element : Element) : Prop where
  notImage : Assembly.isImage element.tag = false
  void : isVoid element.tag = true → element.children = []

def Content.Quiet : Content Element → Prop
  | .element outer => ∀ inner ∈ outer.all, inner.Quiet
  | .text _ => True

theorem Content.Quiet.inside {content : Content Element} (quiet : content.Quiet) (textBearing : Bool) :
    ∀ inner ∈ content.inside textBearing, inner.Quiet := by
  intro inner member
  cases content with
  | text text => cases member
  | element outer =>
    cases inner with
    | text text => trivial
    | element child =>
      have among := List.mem_of_mem_filter member
      intro deeper within
      exact quiet deeper (Element.mem_all_of_child among within)

namespace Assembly

section TwoScopes

variable {surroundings : Surroundings} {aliases : Aliases} {vars others : Variables}

/-- Two components of one element: the same contents become their children, and their names are the
same unless attributes choose them. -/
theorem makes_step (unregistered : ∀ tag, surroundings.registry.factory? tag = none)
    {content : Content Element} {node other : Node} (quiet : content.Quiet)
    (left : Makes surroundings ⟨vars, aliases⟩ content node)
    (right : Makes surroundings ⟨others, aliases⟩ content other) :
    List.Forall₂ (Makes surroundings ⟨vars, aliases⟩) (content.inside node.textBearing) node.children ∧
      List.Forall₂ (Makes surroundings ⟨others, aliases⟩) (content.inside node.textBearing)
        other.children ∧
      (content.isVariable = false → node.name = other.name) := by
  cases content with
  | text text =>
    have blank (shown : String) : SameFrame (label shown) (.textual "Label") := sameFrame_setText _ _
    obtain rfl : node = label _ := left
    obtain rfl : other = label _ := right
    rw [(blank _).children, (blank _).children, (blank _).name, (blank _).name]
    exact ⟨.nil, .nil, fun _ => rfl⟩
  | element element =>
    obtain ⟨bare, origin, nodes, resolved, inside, frame⟩ := build_frame left
    obtain ⟨otherBare, otherOrigin, otherNodes, otherResolved, otherInside, otherFrame⟩ :=
      build_frame right
    have here := quiet element element.self_mem_all
    have childless := Resolution.children_of_resolves (unregistered _) here.notImage
      (Resolution.resolve_ok resolved)
    have otherChildless := Resolution.children_of_resolves (unregistered _) here.notImage
      (Resolution.resolve_ok otherResolved)
    -- attributes choose between components only for input fields, which are empty, and for anchors,
    -- which bear no text either way
    have alike : shown otherBare.textBearing element.children = shown bare.textBearing element.children ∧
        (Content.isVariable (.element element) = false → bare.name = otherBare.name) := by
      by_cases isInput : Text.lower element.tag = "input"
      · have empty := here.void (by rw [isVoid, isInput]; rfl)
        refine ⟨by rw [empty]; rfl, ?_⟩
        intro settled
        simp [Content.isVariable, isInput] at settled
      · by_cases isAnchor : Text.lower element.tag = "_anchor"
        · rw [Resolution.textBearing_of_anchor (unregistered _) isAnchor resolved,
            Resolution.textBearing_of_anchor (unregistered _) isAnchor otherResolved]
          refine ⟨rfl, ?_⟩
          intro settled
          simp [Content.isVariable, isAnchor] at settled
        · have settled : Text.lower element.tag ∉ ["input", "_anchor", "_image"] := by
            have notImage := here.notImage
            simp only [isImage, beq_eq_false_iff_ne] at notImage
            simp [isInput, isAnchor, notImage]
          rw [Resolution.resolve_congr_attributes (unregistered _) settled _
            (attributeFields vars element.attributes), resolved] at otherResolved
          cases otherResolved
          exact ⟨rfl, fun _ => rfl⟩
    rw [alike.1] at otherInside
    rw [Content.inside, frame.textBearing, frame.children, otherFrame.children, frame.name,
      otherFrame.name, childless, otherChildless]
    exact ⟨inside, otherInside, alike.2⟩

theorem shapes_eq {contents : List (Content Element)} {nodes otherNodes : List Node}
    (same : ∀ content ∈ contents, ∀ node other,
      Makes surroundings ⟨vars, aliases⟩ content node →
      Makes surroundings ⟨others, aliases⟩ content other → node.shape = other.shape)
    (left : List.Forall₂ (Makes surroundings ⟨vars, aliases⟩) contents nodes)
    (right : List.Forall₂ (Makes surroundings ⟨others, aliases⟩) contents otherNodes) :
    Node.shapes nodes = Node.shapes otherNodes := by
  induction contents generalizing nodes otherNodes with
  | nil =>
    cases left
    cases right
    rfl
  | cons content rest ih =>
    obtain _ | ⟨made, left⟩ := left
    obtain _ | ⟨otherMade, right⟩ := right
    have first := same content (by simp) _ _ made otherMade
    have remaining := ih (fun inner member => same inner (List.mem_cons_of_mem _ member)) left right
    rw [Node.shapes, Node.shapes, first, remaining]

theorem shape_eq_of_makes (unregistered : ∀ tag, surroundings.registry.factory? tag = none)
    {content : Content Element} {node other : Node} (quiet : content.Quiet)
    (left : Makes surroundings ⟨vars, aliases⟩ content node)
    (right : Makes surroundings ⟨others, aliases⟩ content other) : node.shape = other.shape := by
  have leaf (text : String) {node other : Node}
      (left : Makes surroundings ⟨vars, aliases⟩ (.text text) node)
      (right : Makes surroundings ⟨others, aliases⟩ (.text text) other) : node.shape = other.shape := by
    have quiet : Content.Quiet (.text text) := trivial
    obtain ⟨inside, otherInside, _⟩ := makes_step unregistered quiet left right
    rw [node.shape_eq, other.shape_eq, shapes_eq (by simp [Content.inside]) inside otherInside]
  cases content with
  | text text => exact leaf text left right
  | element element =>
    induction element using Element.induction generalizing node other with
    | step element ih =>
      obtain ⟨inside, otherInside, _⟩ := makes_step unregistered quiet left right
      rw [node.shape_eq, other.shape_eq]
      congr 1
      refine shapes_eq ?_ inside otherInside
      intro content member inner otherInner made otherMade
      cases content with
      | text text => exact leaf text made otherMade
      | element child =>
        have among := List.mem_of_mem_filter member
        exact ih child among (quiet.inside _ _ member) made otherMade

theorem exists_source (unregistered : ∀ tag, surroundings.registry.factory? tag = none)
    (path : List Nat) {contents : List (Content Element)} {nodes otherNodes : List Node}
    {node other : Node} (quiet : ∀ content ∈ contents, content.Quiet)
    (left : List.Forall₂ (Makes surroundings ⟨vars, aliases⟩) contents nodes)
    (right : List.Forall₂ (Makes surroundings ⟨others, aliases⟩) contents otherNodes)
    (found : Node.at? nodes path = some node) (otherFound : Node.at? otherNodes path = some other) :
    ∃ content, source? nodes contents path = some content ∧ content.Quiet ∧
      Makes surroundings ⟨vars, aliases⟩ content node ∧
      Makes surroundings ⟨others, aliases⟩ content other := by
  induction path generalizing contents nodes otherNodes with
  | nil => cases found
  | cons i path ih =>
    cases path with
    | nil =>
      obtain ⟨content, here, made⟩ := exists_getElem?_of_forall₂ left found
      obtain ⟨content', here', otherMade⟩ := exists_getElem?_of_forall₂ right otherFound
      cases here.symm.trans here'
      exact ⟨content, here, quiet content (List.mem_of_getElem? here), made, otherMade⟩
    | cons j path =>
      rw [Node.at?] at found otherFound
      split at found
      · rename_i outer isOuter
        split at otherFound
        · rename_i otherOuter isOtherOuter
          obtain ⟨content, here, made⟩ := exists_getElem?_of_forall₂ left isOuter
          obtain ⟨content', here', otherMade⟩ := exists_getElem?_of_forall₂ right isOtherOuter
          cases here.symm.trans here'
          -- the two outer nodes come from one content, and the path goes on inside it
          have still := quiet content (List.mem_of_getElem? here)
          obtain ⟨inside, otherInside, _⟩ := makes_step unregistered still made otherMade
          obtain ⟨source, isSource, facts⟩ := ih (still.inside _) inside otherInside found otherFound
          refine ⟨source, ?_, facts⟩
          simp only [source?, isOuter, here, isSource]
        · cases otherFound
      · cases found

end TwoScopes

end Assembly

theorem Document.quiet_of_parse {source : String} {document : Document}
    (parsed : Document.parse source = .ok document)
    (noImages : ∀ element ∈ document.all, Assembly.isImage element.tag = false) :
    ∀ content ∈ document.elements.map Content.element, content.Quiet := by
  have wellFormed := Reader.wellFormed_of_readDocument parsed
  intro content member
  obtain ⟨element, among, rfl⟩ := List.mem_map.mp member
  intro inner within
  have everywhere : inner ∈ document.all := List.mem_flatMap.mpr ⟨element, among, within⟩
  exact ⟨noImages inner everywhere, (wellFormed.proper inner everywhere).void⟩

namespace Template

/-- The values of variables do not change what the components of a text are. Without custom tags and
pictures, two ways of giving values lead to the same number of components inside each; the components
at one position come from one content of the document, and their names are the same unless that is an
input field or an anchor. -/
theorem same_shape_of_overrides {surroundings : Surroundings} {left right : Fields String}
    {source : String} {first second : Template} (custom : surroundings.registry = .empty)
    (noImages : ∀ document, Document.parse source = .ok document →
      ∀ element ∈ document.all, Assembly.isImage element.tag = false)
    (compiled : (compile surroundings left source).result = .ok first)
    (compiledAgain : (compile surroundings right source).result = .ok second) :
    Node.shapes first.roots = Node.shapes second.roots ∧
      ∃ document, Document.parse source = .ok document ∧
        ∀ path node other, Node.at? first.roots path = some node →
          Node.at? second.roots path = some other →
          ∃ content, source? first.roots (document.elements.map .element) path = some content ∧
            Assembly.Makes surroundings ⟨first.vars, first.aliases⟩ content node ∧
            Assembly.Makes surroundings ⟨second.vars, second.aliases⟩ content other ∧
            (content.isVariable = false → node.name = other.name) := by
  obtain ⟨document, declared, vars, roots, parsed, evaluated, _, built, rfl⟩ := compile_ok compiled
  obtain ⟨document', declared', others, otherRoots, parsed', evaluated', _, otherBuilt, rfl⟩ :=
    compile_ok compiledAgain
  cases parsed.symm.trans parsed'
  cases evaluated.symm.trans evaluated'
  have unregistered (tag : String) : surroundings.registry.factory? tag = none := by
    rw [custom]
    rfl
  have quiet := Document.quiet_of_parse parsed (noImages document parsed)
  have made := Assembly.buildAll_ok built
  have otherMade := Assembly.buildAll_ok otherBuilt
  refine ⟨?_, document, parsed, ?_⟩
  · refine Assembly.shapes_eq ?_ made otherMade
    intro content member node other
    exact Assembly.shape_eq_of_makes unregistered (quiet content member)
  · intro path node other found otherFound
    obtain ⟨content, isSource, still, here, there⟩ :=
      Assembly.exists_source unregistered path quiet made otherMade found otherFound
    exact ⟨content, isSource, here, there,
      (Assembly.makes_step unregistered still here there).2.2⟩

/-- A value with markup in it is only a value, and the input field still has its place. -/
theorem same_shape_of_overrides_markup :
    let surroundings : Surroundings := ⟨.empty, fun _ => .directory, none⟩
    let source := "<div>@kind<input type='@kind'/></div>"
    ∃ first second, (compile surroundings [("kind", "checkbox")] source).result = .ok first ∧
      (compile surroundings [("kind", "<b/>")] source).result = .ok second ∧
      first.commands = ["Group \x7b Label \x7b Text: \"checkbox\"; \x7d CheckBoxWithLabel \x7b \x7d \x7d"] ∧
      second.commands = ["Group \x7b Label \x7b Text: \"<b/>\"; \x7d TextField \x7b \x7d \x7d"] ∧
      Node.shapes first.roots = Node.shapes second.roots := by
  intro surroundings source
  have tags : (Document.parse source).toOption.map (fun document => document.all.map Element.tag) =
      some ["div", "input"] := by
    decide +kernel
  obtain ⟨first, compiled, commands⟩ := ok_of_toOption_map
    (show (compile surroundings [("kind", "checkbox")] source).result.toOption.map Template.commands =
      some ["Group \x7b Label \x7b Text: \"checkbox\"; \x7d CheckBoxWithLabel \x7b \x7d \x7d"] by
        decide +kernel)
  obtain ⟨second, compiledAgain, otherCommands⟩ := ok_of_toOption_map
    (show (compile surroundings [("kind", "<b/>")] source).result.toOption.map Template.commands =
      some ["Group \x7b Label \x7b Text: \"<b/>\"; \x7d TextField \x7b \x7d \x7d"] by
        decide +kernel)
  have noImages (document : Document) (parsed : Document.parse source = .ok document)
      (element : Element) (member : element ∈ document.all) : Assembly.isImage element.tag = false := by
    simp only [parsed, Except.toOption, Option.map_some, Option.some.injEq] at tags
    have tag := List.mem_map_of_mem member (f := Element.tag)
    rw [tags] at tag
    simp only [List.mem_cons, List.not_mem_nil, or_false] at tag
    rcases tag with tag | tag
    all_goals rw [tag]; rfl
  exact ⟨first, second, compiled, compiledAgain, commands, otherCommands,
    (same_shape_of_overrides rfl noImages compiled compiledAgain).1⟩

end Template

end UiMarkup
