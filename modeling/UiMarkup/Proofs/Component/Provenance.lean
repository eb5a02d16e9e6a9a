import UiMarkup.Proofs.Component.Shape

namespace UiMarkup

namespace Node

theorem forall_of_at? {holds : Node → Prop}
    (step : ∀ node, holds node → ∀ child ∈ node.children, holds child) (path : List Nat)
    {nodes : List Node} {node : Node} (start : ∀ root ∈ nodes, holds root)
    (found : at? nodes path = some node) : holds node := by
  -- the path leads from the roots to the children of one of them, and so on
  induction path generalizing nodes with
  | nil => cases found
  | cons i path ih =>
    cases path with
    | nil => exact start node (List.mem_of_getElem? found)
    | cons j path =>
      rw [at?] at found
      split at found
      · rename_i outer isOuter
        exact ih (step outer (start outer (List.mem_of_getElem? isOuter))) found
      · cases found

end Node

theorem Element.mem_all_trans {outer : Element} : ∀ {element inner : Element},
    element ∈ outer.all → inner ∈ element.all → inner ∈ outer.all := by
  induction outer using Element.induction with
  | step outer ih =>
    intro element inner member within
    rcases Element.mem_all_iff.mp member with rfl | deeper
    · exact within
    · obtain ⟨child, isChild, inChild⟩ := Content.mem_all_iff.mp deeper
      exact Element.mem_all_of_child isChild (ih child isChild inChild within)

theorem Document.child_mem_all {document : Document} {element child : Element}
    (member : element ∈ document.all) (isChild : .element child ∈ element.children) :
    child ∈ document.all := by
  obtain ⟨outer, among, within⟩ := List.mem_flatMap.mp member
  have inside := Element.mem_all_of_child isChild child.self_mem_all
  exact List.mem_flatMap.mpr ⟨outer, among, Element.mem_all_trans within inside⟩

theorem Registry.factory?_of_empty {registry : Registry} (custom : registry = .empty) (tag : String) :
    registry.factory? tag = none := by
  rw [custom]
  rfl

namespace Resolution

variable {surroundings : Surroundings} {aliases : Aliases}

/-- Only pictures have children before the content of their elements is looked at. -/
theorem mem_children_of_resolves {tag : QualifiedTag} {attributes : Fields String} {bare child : Node}
    {origin : Origin} (unregistered : ∀ tag, surroundings.registry.factory? tag = none)
    (h : Resolves surroundings aliases tag attributes bare origin) (member : child ∈ bare.children) :
    ∃ side pixels, child = Raster.row side pixels := by
  cases h with
  | custom found =>
    rw [unregistered] at found
    cases found
  | qualified => cases member
  | intern isPlain underscore made =>
    rcases intern_ok made with ⟨_, drawn⟩ | ⟨_, id, rfl⟩ | rfl
    · obtain ⟨side, width, height, rows, rfl⟩ := image_ok drawn
      obtain ⟨pixels, _, rfl⟩ := List.mem_map.mp member
      exact ⟨side, pixels, rfl⟩
    · cases member
    · cases member
  | usual isPlain made =>
    rw [Defaults.children_component? made] at member
    cases member
  | named => cases member

end Resolution

namespace Assembly

/-- What a component of a document comes from. -/
inductive Stems (surroundings : Surroundings) (scope : Scope) (document : Document) : Node → Prop
  | element {element : Element} {node : Node} (among : element ∈ document.all)
      (built : (build surroundings scope element).result = .ok node) :
      Stems surroundings scope document node
  | text (text : String) : Stems surroundings scope document (label text)
  | row (side : Float) (pixels : List Pixel) : Stems surroundings scope document (Raster.row side pixels)
  | cell (side : Float) (count : Nat) (pixel : Pixel) :
      Stems surroundings scope document (Raster.cell side count pixel)

variable {surroundings : Surroundings} {scope : Scope} {document : Document}

theorem sameFrame_label (text : String) : SameFrame (label text) (.textual "Label") :=
  sameFrame_setText _ _

theorem sameFrame_cell (side : Float) (count : Nat) (pixel : Pixel) :
    SameFrame (Raster.cell side count pixel) (.component "Group") := by
  unfold Raster.cell
  simp only
  split <;> exact ⟨rfl, rfl, rfl⟩

theorem Stems.child (unregistered : ∀ tag, surroundings.registry.factory? tag = none) (node : Node)
    (stems : Stems surroundings scope document node) :
    ∀ child ∈ node.children, Stems surroundings scope document child := by
  intro child member
  cases stems with
  | element among built =>
    obtain ⟨bare, origin, nodes, resolved, inside, frame⟩ := build_frame built
    rw [frame.children] at member
    rcases List.mem_append.mp member with member | member
    · obtain ⟨side, pixels, rfl⟩ :=
        Resolution.mem_children_of_resolves unregistered (Resolution.resolve_ok resolved) member
      exact .row side pixels
    · obtain ⟨content, isShown, made⟩ := exists_mem_of_forall₂ inside member
      cases content with
      | text text =>
        obtain rfl : child = label _ := made
        exact .text _
      | element inner =>
        exact .element (Document.child_mem_all among (List.mem_of_mem_filter isShown)) made
  | text text =>
    rw [(sameFrame_label text).children] at member
    cases member
  | row side pixels =>
    obtain ⟨run, _, rfl⟩ := List.mem_map.mp member
    exact .cell side run.1 run.2
  | cell side count pixel =>
    rw [(sameFrame_cell side count pixel).children] at member
    cases member

end Assembly

theorem Template.stems_of_compile {surroundings : Surroundings} {overrides : Fields String}
    {source : String} {template : Template} (custom : surroundings.registry = .empty)
    (compiled : (compile surroundings overrides source).result = .ok template) :
    ∃ document, Document.parse source = .ok document ∧
      ∀ path node, Node.at? template.roots path = some node →
        Assembly.Stems surroundings ⟨template.vars, template.aliases⟩ document node := by
  obtain ⟨document, declared, vars, roots, parsed, _, _, built, rfl⟩ := compile_ok compiled
  have unregistered := Registry.factory?_of_empty custom
  refine ⟨document, parsed, ?_⟩
  intro path node found
  refine Node.forall_of_at? (Assembly.Stems.child unregistered) path ?_ found
  intro root member
  obtain ⟨content, isElement, made⟩ := exists_mem_of_forall₂ (Assembly.buildAll_ok built) member
  obtain ⟨element, among, rfl⟩ := List.mem_map.mp isElement
  exact .element (List.mem_flatMap.mpr ⟨element, among, element.self_mem_all⟩) made

end UiMarkup
