import UiMarkup.Proofs.Component.Marks
import UiMarkup.Proofs.Component.Provenance
import UiMarkup.Proofs.Decimal.Boundless
import UiMarkup.Proofs.Fields

namespace UiMarkup

namespace Value

mutual

def numbers : Value → List Float
  | number x => [x]
  | object fields => fieldNumbers fields
  | _ => []

def fieldNumbers : List (String × Value) → List Float
  | [] => []
  | (_, value) :: rest => value.numbers ++ fieldNumbers rest

end

theorem mem_fieldNumbers_iff {fields : List (String × Value)} {x : Float} :
    x ∈ fieldNumbers fields ↔ ∃ field ∈ fields, x ∈ field.2.numbers := by
  induction fields with
  | nil => simp [fieldNumbers]
  | cons field rest ih =>
    obtain ⟨key, value⟩ := field
    rw [fieldNumbers, List.mem_append, ih, List.exists_mem_cons_iff]

theorem mem_numbers_object {fields : List (String × Value)} {x : Float} :
    x ∈ (object fields).numbers ↔ x ∈ fieldNumbers fields := by
  rw [numbers]

mutual

theorem mem_numbers_onto (incoming : Value) (present : Option Value) {x : Float}
    (member : x ∈ (onto incoming present).numbers) :
    x ∈ incoming.numbers ∨ ∃ value, present = some value ∧ x ∈ value.numbers := by
  by_cases merged : ∃ existing, present = some (object existing)
  · obtain ⟨existing, rfl⟩ := merged
    cases incoming with
    | object fields =>
      rw [onto_object, mem_numbers_object] at member
      rcases mem_fieldNumbers_mergeFields fields existing member with old | new
      · exact .inr ⟨_, rfl, mem_numbers_object.mpr old⟩
      · exact .inl (mem_numbers_object.mpr new)
    | _ =>
      rw [onto_eq_self (by simp)] at member
      exact .inl member
  · rw [onto_eq_self fun _ existing _ here => merged ⟨existing, here⟩] at member
    exact .inl member

theorem mem_fieldNumbers_mergeFields (incoming target : List (String × Value)) {x : Float}
    (member : x ∈ fieldNumbers (mergeFields target incoming)) :
    x ∈ fieldNumbers target ∨ x ∈ fieldNumbers incoming := by
  cases incoming with
  | nil =>
    rw [mergeFields] at member
    exact .inl member
  | cons first rest =>
    obtain ⟨key, value⟩ := first
    rw [mergeFields] at member
    rw [fieldNumbers, List.mem_append]
    rcases mem_fieldNumbers_mergeFields rest _ member with changed | later
    · obtain ⟨field, among, inside⟩ := mem_fieldNumbers_iff.mp changed
      rcases Fields.mem_put among with old | rfl
      · exact .inl (mem_fieldNumbers_iff.mpr ⟨field, old, inside⟩)
      · rcases mem_numbers_onto value _ inside with new | ⟨present, found, old⟩
        · exact .inr (.inl new)
        · exact .inl (mem_fieldNumbers_iff.mpr ⟨_, Fields.mem_of_value? found, old⟩)
    · exact .inr (.inr later)

end

def Finite (value : Value) : Prop :=
  ∀ x ∈ value.numbers, x.isFinite = true

theorem finite_number {x : Float} (finite : x.isFinite = true) : (number x).Finite := by
  intro y member
  rw [numbers, List.mem_singleton] at member
  rwa [member]

theorem finite_of_numbers {value : Value} (none : value.numbers = []) : value.Finite := by
  intro x member
  rw [none] at member
  cases member

theorem finite_object {fields : List (String × Value)} (h : ∀ field ∈ fields, field.2.Finite) :
    (object fields).Finite := by
  intro x member
  obtain ⟨field, among, inside⟩ := mem_fieldNumbers_iff.mp (mem_numbers_object.mp member)
  exact h field among x inside

theorem finite_ofLiteral (raw : String) : (ofLiteral raw).Finite := by
  unfold ofLiteral
  split
  · exact finite_of_numbers rfl
  · split
    · exact finite_of_numbers rfl
    · split
      · rename_i x read
        exact finite_number (Decimal.isFinite_of_readFinite? read)
      · exact finite_of_numbers rfl

end Value

namespace Style

theorem finite_sides {top right bottom left : Value} (isTop : top.Finite) (isRight : right.Finite)
    (isBottom : bottom.Finite) (isLeft : left.Finite) : (sides top right bottom left).Finite := by
  apply Value.finite_object
  simp only [List.forall_mem_cons, List.not_mem_nil, false_implies, implies_true, and_true]
  exact ⟨isLeft, isTop, isRight, isBottom⟩

theorem Kind.Gives.finite {kind : Kind} {value : Value} (gives : kind.Gives value) : value.Finite := by
  have length {value : Value} (gives : Kind.length.Gives value) : value.Finite := by
    cases gives with
    | length read => exact Value.finite_number (Decimal.isFinite_of_readFinite? read)
  cases gives with
  | length read => exact Value.finite_number (Decimal.isFinite_of_readFinite? read)
  | factor read => exact Value.finite_number (Decimal.isFinite_of_readFinite? read)
  | box isTop isRight isBottom isLeft =>
    exact finite_sides (length isTop) (length isRight) (length isBottom) (length isLeft)
  | _ => exact Value.finite_of_numbers rfl

theorem finite_assign (target : Target) {value : Value} (finite : value.Finite) :
    ∀ x ∈ Value.fieldNumbers (target.assign value), x.isFinite = true := by
  intro x member
  unfold Target.assign at member
  split at member
  · simp only [Value.fieldNumbers, List.append_nil] at member
    exact finite x member
  · simp only [Value.fieldNumbers, Value.numbers, List.append_nil] at member
    exact finite x member

theorem finite_parse {block : String} {properties : Properties} (h : parse block = .ok properties) :
    ∀ x ∈ Value.fieldNumbers properties, x.isFinite = true := by
  have start : ∀ x ∈ Value.fieldNumbers [], x.isFinite = true := by simp [Value.fieldNumbers]
  refine readDeclarations_forall (fun set => ∀ x ∈ Value.fieldNumbers set, x.isFinite = true) ?_ start h
  intro properties finite entry _ value gives x member
  rcases Value.mem_fieldNumbers_mergeFields _ _ member with old | new
  · exact finite x old
  · exact finite_assign entry.2 gives.finite x new

end Style

namespace Node

inductive Measured (holds : Float → Prop) : Node → Prop
  | intro {node : Node} (properties : ∀ x ∈ Value.fieldNumbers node.properties, holds x)
      (children : ∀ child ∈ node.children, Measured holds child) : Measured holds node

variable {holds : Float → Prop} {node : Node}

theorem Measured.properties (measured : node.Measured holds) :
    ∀ x ∈ Value.fieldNumbers node.properties, holds x := by
  obtain ⟨properties, _⟩ := measured
  exact properties

theorem Measured.children (measured : node.Measured holds) :
    ∀ child ∈ node.children, child.Measured holds := by
  obtain ⟨_, children⟩ := measured
  exact children

theorem Measured.set (measured : node.Measured holds) (key : String) {value : Value}
    (inside : ∀ x ∈ value.numbers, holds x) : (node.set key value).Measured holds := by
  refine ⟨?_, measured.children⟩
  intro x member
  obtain ⟨field, among, here⟩ := Value.mem_fieldNumbers_iff.mp member
  rcases Fields.mem_put among with old | rfl
  · exact measured.properties x (Value.mem_fieldNumbers_iff.mpr ⟨field, old, here⟩)
  · exact inside x here

theorem Measured.setAll (measured : node.Measured holds) {incoming : Properties}
    (inside : ∀ x ∈ Value.fieldNumbers incoming, holds x) : (node.setAll incoming).Measured holds := by
  refine ⟨?_, measured.children⟩
  intro x member
  rcases Value.mem_fieldNumbers_mergeFields _ _ member with old | new
  · exact measured.properties x old
  · exact inside x new

theorem Measured.without (measured : node.Measured holds) (key : String) :
    Measured holds { node with properties := Fields.without node.properties key } := by
  refine ⟨?_, measured.children⟩
  intro x member
  obtain ⟨field, among, here⟩ := Value.mem_fieldNumbers_iff.mp member
  apply measured.properties x
  exact Value.mem_fieldNumbers_iff.mpr ⟨field, Fields.mem_of_mem_without among, here⟩

theorem Measured.setText (measured : node.Measured holds) (text : String) :
    (node.setText text).Measured holds := by
  have noNumbers (shown : String) : ∀ x ∈ (Value.text shown).numbers, holds x := by
    simp [Value.numbers]
  unfold Node.setText
  split
  · exact (measured.without "Text").set "TextKey" (noNumbers _)
  · exact (measured.without "TextKey").set "Text" (noNumbers _)

theorem Measured.setId (measured : node.Measured holds) (id : String) :
    (node.setId id).Measured holds :=
  ⟨measured.properties, measured.children⟩

theorem Measured.withChildren (measured : node.Measured holds) {nodes : List Node}
    (inside : ∀ child ∈ nodes, child.Measured holds) : Measured holds { node with children := nodes } :=
  ⟨measured.properties, inside⟩

theorem measured_of_empty (noProperties : node.properties = []) (noChildren : node.children = []) :
    node.Measured holds := by
  refine ⟨?_, ?_⟩
  · rw [noProperties]
    simp [Value.fieldNumbers]
  · rw [noChildren]
    simp

end Node

section Parts

variable {holds : Float → Prop} (finite : ∀ x : Float, x.isFinite = true → holds x)

include finite

theorem Node.Measured.setFinite {node : Node} (measured : node.Measured holds) (key : String)
    {value : Value} (isFinite : value.Finite) : (node.set key value).Measured holds :=
  measured.set key fun x member => finite x (isFinite x member)

theorem Defaults.measured_heading {size : Float} (isFinite : size.isFinite = true) :
    (heading size).Measured holds := by
  have label : (Node.textual "Label").Measured holds := Node.measured_of_empty rfl rfl
  refine label.setFinite finite "Style" (Value.finite_object ?_)
  simp only [List.forall_mem_cons, List.not_mem_nil, false_implies, implies_true, and_true]
  exact ⟨Value.finite_number isFinite, Value.finite_of_numbers rfl⟩

theorem Defaults.measured_styledLabel (flag : String) : (styledLabel flag).Measured holds := by
  have label : (Node.textual "Label").Measured holds := Node.measured_of_empty rfl rfl
  exact label.setFinite finite "Style" (Value.finite_of_numbers rfl)

theorem Defaults.measured_input (attributes : Fields String) : (input attributes).Measured holds := by
  unfold input
  split
  · have field : (Node.component "TextField").Measured holds := Node.measured_of_empty rfl rfl
    exact field.setFinite finite "PasswordChar" (Value.finite_of_numbers rfl)
  all_goals exact Node.measured_of_empty rfl rfl

theorem Defaults.measured_component? {tag : String} {attributes : Fields String} {node : Node}
    (made : component? tag attributes = some node) : node.Measured holds := by
  have group : (Node.component "Group").Measured holds := Node.measured_of_empty rfl rfl
  have component (name : String) : (Node.component name).Measured holds := Node.measured_of_empty rfl rfl
  have textual (name : String) : (Node.textual name).Measured holds := Node.measured_of_empty rfl rfl
  have column : ((Node.component "Group").set "LayoutMode" (.expression "Top")).Measured holds :=
    group.setFinite finite "LayoutMode" (Value.finite_of_numbers rfl)
  have rule : ((Node.component "Group").set "Anchor" (.object [("Height", .number 1.0)])).Measured
      holds := by
    refine group.setFinite finite "Anchor" (Value.finite_object ?_)
    simp only [List.mem_singleton, forall_eq]
    exact Value.finite_number (by decide)
  unfold component? at made
  split at made
  all_goals cases made
  all_goals try simp only [component, textual, column, rule, measured_styledLabel finite,
    measured_input finite]
  -- what is left are the headings, each with a size of its own
  all_goals exact measured_heading finite (by decide +kernel)

end Parts

namespace Raster

theorem count_of_mem_runs {α : Type} [DecidableEq α] {values : List α} {run : Nat × α}
    (member : run ∈ runs values) : 0 < run.1 ∧ run.1 ≤ values.length := by
  induction values generalizing run with
  | nil => cases member
  | cons a rest ih =>
    rw [runs] at member
    split at member
    · rw [List.mem_singleton.mp member]
      simp
    · rename_i count b others shape
      rw [shape] at ih
      have first := ih List.mem_cons_self
      have later {other : Nat × α} (among : other ∈ others) := ih (List.mem_cons_of_mem _ among)
      simp only [List.length_cons] at first later ⊢
      split at member
      · rcases List.mem_cons.mp member with rfl | among
        · simp only
          omega
        · have bounds := later among
          omega
      · rcases List.mem_cons.mp member with rfl | among
        · simp only
          omega
        · rcases List.mem_cons.mp among with rfl | among
          · simp only at first ⊢
            omega
          · have bounds := later among
            omega

theorem proportional_pos (value whole part : Nat) : 0 < proportional value whole part := by
  unfold proportional
  have limit : 0 < Decimal.wordLimit := by decide
  omega

theorem dimension_pos {attributes : Fields String} {name : String} {cells : Nat}
    (h : dimension attributes name = .ok (some cells)) : 0 < cells := by
  unfold dimension at h
  split at h
  · cases h
  · split at h
    · rename_i found
      cases h
      obtain ⟨_, positive⟩ := Option.filter_eq_some_iff.mp found
      exact of_decide_eq_true positive
    · cases h

theorem fit_pos {width height : Option Nat} {nativeWidth nativeHeight : Nat}
    (isWidth : ∀ cells ∈ width, 0 < cells) (isHeight : ∀ cells ∈ height, 0 < cells)
    (isNativeWidth : 0 < nativeWidth) (isNativeHeight : 0 < nativeHeight) :
    0 < (fit width height nativeWidth nativeHeight).1 ∧
      0 < (fit width height nativeWidth nativeHeight).2 := by
  unfold fit
  split
  · exact ⟨isWidth _ rfl, isHeight _ rfl⟩
  · exact ⟨isWidth _ rfl, proportional_pos _ _ _⟩
  · exact ⟨proportional_pos _ _ _, isHeight _ rfl⟩
  · simp only
    split
    · exact ⟨isNativeWidth, isNativeHeight⟩
    · exact ⟨proportional_pos _ _ _, proportional_pos _ _ _⟩

theorem gridSize_bounds {attributes : Fields String} {nativeWidth nativeHeight : Nat} {size : Nat × Nat}
    (h : gridSize attributes nativeWidth nativeHeight = .ok size) :
    (0 < size.1 ∧ size.1 ≤ 256) ∧ 0 < size.2 ∧ size.2 ≤ 256 := by
  unfold gridSize at h
  obtain ⟨width, isWidth, h⟩ := ok_of_bind h
  obtain ⟨height, isHeight, h⟩ := ok_of_bind h
  have widths : ∀ cells ∈ width, 0 < cells := by
    rintro cells rfl
    exact dimension_pos isWidth
  have heights : ∀ cells ∈ height, 0 < cells := by
    rintro cells rfl
    exact dimension_pos isHeight
  have positive := @fit_pos width height (max nativeWidth 1) (max nativeHeight 1) widths heights
    (by omega) (by omega)
  simp only at h
  split at h
  · cases h
  · rename_i small
    cases h
    simp only [sideLimit, not_or, not_lt, gt_iff_lt] at small
    exact ⟨⟨positive.1, small.1⟩, positive.2, small.2⟩

theorem pixelSize_ok {attributes : Fields String} {side : Float}
    (h : pixelSize attributes = .ok side) :
    side = 4.0 ∨ ∃ text, Fields.value? attributes "pixel-size" = some text ∧
      Decimal.readReal? (Text.trim text.toList) = some side ∧ 0.0 < side := by
  unfold pixelSize at h
  split at h
  · cases h
    exact .inl rfl
  · rename_i text given
    split at h
    · rename_i size read
      split at h
      · rename_i positive
        cases h
        exact .inr ⟨text, given, read, positive⟩
      · cases h
    · cases h

theorem measured_sized {holds : Float → Prop} {width height : Float} (isWidth : holds width)
    (isHeight : holds height) :
    ((Node.component "Group").set "Anchor" (size width height)).Measured holds := by
  have group : (Node.component "Group").Measured holds := Node.measured_of_empty rfl rfl
  apply group.set
  simp only [size, Value.numbers, Value.fieldNumbers, List.cons_append, List.nil_append,
    List.forall_mem_cons, List.not_mem_nil, false_implies, implies_true, and_true]
  exact ⟨isWidth, isHeight⟩

section Drawing

variable {holds : Float → Prop} {side : Float} (isSide : holds side)
  (isProduct : ∀ count : Nat, 0 < count → count ≤ 256 → holds (count.toFloat * side))

include isSide isProduct

theorem measured_cell {count : Nat} (filled : 0 < count) (small : count ≤ 256) (pixel : Pixel) :
    (cell side count pixel).Measured holds := by
  have sized := measured_sized (isProduct count filled small) isSide
  unfold cell
  simp only
  split
  · exact sized.set "Background" (by simp [Value.numbers])
  · exact sized

theorem measured_row {pixels : List Pixel} (small : pixels.length ≤ 256) :
    (row side pixels).Measured holds := by
  have group : (Node.component "Group").Measured holds := Node.measured_of_empty rfl rfl
  have high : ((Node.component "Group").set "Anchor" (.object [("Height", .number side)])).Measured
      holds := by
    apply group.set
    simp only [Value.numbers, Value.fieldNumbers, List.append_nil, List.mem_singleton, forall_eq]
    exact isSide
  refine (high.set "LayoutMode" (by simp [Value.numbers])).withChildren ?_
  intro child member
  obtain ⟨run, among, rfl⟩ := List.mem_map.mp member
  obtain ⟨filled, bound⟩ := count_of_mem_runs among
  exact measured_cell isSide isProduct filled (by omega) run.2

theorem measured_drawing {width height : Nat} {rows : List (List Pixel)}
    (isWidth : 0 < width ∧ width ≤ 256) (isHeight : 0 < height ∧ height ≤ 256)
    (isRows : ∀ pixels ∈ rows, pixels.length = width) :
    (drawing side width height rows).Measured holds := by
  have sized := measured_sized (isProduct width isWidth.1 isWidth.2) (isProduct height isHeight.1 isHeight.2)
  refine (sized.set "LayoutMode" (by simp [Value.numbers])).withChildren ?_
  intro child member
  obtain ⟨pixels, among, rfl⟩ := List.mem_map.mp member
  have length := isRows pixels among
  exact measured_row isSide isProduct (by omega)

end Drawing

/-- The numbers of a drawing are the side of its cells and small multiples of it. -/
theorem measured_draw {holds : Float → Prop} {attributes : Fields String} {picture : Picture} {node : Node}
    (h : draw attributes picture = .ok node)
    (sides : ∀ side, pixelSize attributes = .ok side →
      holds side ∧ ∀ count : Nat, 0 < count → count ≤ 256 → holds (count.toFloat * side)) :
    node.Measured holds := by
  unfold draw at h
  obtain ⟨⟨width, height⟩, isSize, h⟩ := ok_of_bind h
  obtain ⟨side, isSide, done⟩ := ok_of_bind h
  cases done
  obtain ⟨isWidth, isHeight⟩ := gridSize_bounds isSize
  obtain ⟨single, product⟩ := sides side isSide
  refine measured_drawing single product isWidth isHeight ?_
  intro pixels member
  obtain ⟨y, _, rfl⟩ := List.mem_map.mp member
  simp

end Raster

/-- The element is a picture, and one of its attributes gives the side of its cells. -/
def Element.AsksSide (element : Element) (vars : Variables) (side : Float) : Prop :=
  Text.lower element.tag = "_image" ∧ ∃ given ∈ element.attributes, given.binding = false ∧
    Text.lower given.name = "pixel-size" ∧
    Decimal.readReal? (Text.trim ((Assembly.expanded vars given).getD "").toList) = some side ∧
    0.0 < side

namespace Assembly

variable {holds : Float → Prop} {vars : Variables}

theorem attribute_of_value? {attributes : List Attribute} {name text : String}
    (found : Fields.value? (attributeFields vars attributes) name = some text) :
    ∃ given ∈ attributes, given.binding = false ∧ Text.lower given.name = name ∧
      (expanded vars given).getD "" = text := by
  rw [attributeFields, Fields.value?_ofPairs] at found
  have member := List.mem_reverse.mp (Fields.mem_of_value? found)
  obtain ⟨given, among, same⟩ := List.mem_map.mp member
  obtain ⟨inside, static⟩ := List.mem_filter.mp among
  obtain ⟨isName, isText⟩ := Prod.mk.inj same
  exact ⟨given, inside, by simpa using static, isName, isText⟩

theorem measured_of_resolves {surroundings : Surroundings} {aliases : Aliases} {element : Element}
    {bare : Node} {origin : Origin} (finite : ∀ x : Float, x.isFinite = true → holds x)
    (unregistered : ∀ tag, surroundings.registry.factory? tag = none)
    (pictured : ∀ side, element.AsksSide vars side →
      holds side ∧ ∀ count : Nat, 0 < count → count ≤ 256 → holds (count.toFloat * side))
    (h : Resolution.Resolves surroundings aliases (.ofTag element.tag)
      (attributeFields vars element.attributes) bare origin) : bare.Measured holds := by
  cases h with
  | custom found =>
    rw [unregistered] at found
    cases found
  | qualified => exact Node.measured_of_empty rfl rfl
  | usual isPlain made => exact Defaults.measured_component? finite made
  | named => exact Node.measured_of_empty rfl rfl
  | intern isPlain underscore made =>
    rcases Resolution.intern_ok made with ⟨isImage, drawn⟩ | ⟨_, id, rfl⟩ | rfl
    · obtain ⟨picture, isDrawn⟩ := Resolution.image_draws drawn
      have tag : Text.lower element.tag = "_image" := by
        rcases QualifiedTag.ofTag_cases element.tag with ⟨_, _, isQualified⟩ | unqualified
        · rw [isQualified] at isPlain
          cases isPlain
        · rw [unqualified] at underscore
          rw [Text.lower_of_underscore underscore, isImage]
          rfl
      refine Raster.measured_draw isDrawn ?_
      intro side isSide
      rcases Raster.pixelSize_ok isSide with rfl | ⟨text, given, read, positive⟩
      · refine ⟨finite _ (by decide), ?_⟩
        intro count filled small
        have inTable := List.mem_range.mpr (show count < 257 by omega)
        exact finite _ (Decimal.count_table count inTable filled).2.2
      · obtain ⟨written, among, static, isName, rfl⟩ := attribute_of_value? given
        exact pictured side ⟨tag, written, among, static, isName, read, positive⟩
    · exact Node.measured_of_empty rfl rfl
    · exact Node.measured_of_empty rfl rfl

theorem measured_applyPlain (finite : ∀ x : Float, x.isFinite = true → holds x) {node : Node}
    (measured : node.Measured holds) (name : String) (value : Option String) :
    (applyPlain node name value).Measured holds := by
  have plain (key : String) {v : Value} (none : v.numbers = []) : (node.set key v).Measured holds :=
    measured.setFinite finite key (Value.finite_of_numbers none)
  unfold applyPlain
  simp only
  split
  · exact measured
  · exact measured
  · exact measured.setText _
  · exact plain _ rfl
  · exact plain _ rfl
  · exact plain _ rfl
  · exact plain _ rfl
  · exact plain _ rfl
  · exact plain _ rfl
  · exact plain _ rfl
  · exact measured.setFinite finite _ (Value.finite_ofLiteral _)
  · split
    · exact measured.setFinite finite _ (Value.finite_ofLiteral _)
    · exact plain _ rfl

theorem measured_applyAttribute (finite : ∀ x : Float, x.isFinite = true → holds x) {origin : Origin}
    {node changed : Node} {given : Attribute} (measured : node.Measured holds)
    (h : applyAttribute vars origin node given = .ok changed) : changed.Measured holds := by
  unfold applyAttribute at h
  simp only at h
  split at h
  · cases h
    exact measured.setFinite finite _ (Value.finite_of_numbers rfl)
  · split at h
    · cases h
      exact measured.setId _
    · split at h
      · obtain ⟨properties, parsed, done⟩ := ok_of_bind h
        cases done
        apply measured.setAll
        intro x member
        exact finite x (Style.finite_parse parsed x member)
      · split at h
        · cases h
          exact measured
        · cases h
          exact measured_applyPlain finite measured _ _

theorem measured_applyAttributes (finite : ∀ x : Float, x.isFinite = true → holds x) {origin : Origin}
    {attributes : List Attribute} {node changed : Node} (measured : node.Measured holds)
    (h : applyAttributes vars origin node attributes = .ok changed) : changed.Measured holds := by
  induction attributes generalizing node with
  | nil =>
    cases h
    exact measured
  | cons given rest ih =>
    obtain ⟨first, applied, others⟩ := ok_of_bind h
    exact ih (measured_applyAttribute finite measured applied) others

theorem measured_fill {node : Node} (measured : node.Measured holds) {children : List Node}
    (inside : ∀ child ∈ children, child.Measured holds) (texts : List String) :
    (fill node children texts).Measured holds := by
  have filled : Node.Measured holds { node with children := node.children ++ children } := by
    refine measured.withChildren ?_
    intro child member
    rcases List.mem_append.mp member with member | member
    · exact measured.children child member
    · exact inside child member
  unfold fill
  simp only
  split
  · exact filled
  · exact filled.setText _

theorem measured_of_build {surroundings : Surroundings} {scope : Scope}
    (finite : ∀ x : Float, x.isFinite = true → holds x)
    (unregistered : ∀ tag, surroundings.registry.factory? tag = none) (element : Element)
    (pictured : ∀ inner ∈ element.all, ∀ side, inner.AsksSide scope.vars side →
      holds side ∧ ∀ count : Nat, 0 < count → count ≤ 256 → holds (count.toFloat * side))
    {node : Node} (h : (build surroundings scope element).result = .ok node) : node.Measured holds := by
  induction element using Element.induction generalizing node with
  | step element ih =>
    obtain ⟨bare, origin, dressed, nodes, texts, resolved, applied, inside, rfl⟩ := build_ok h
    have measured := measured_of_resolves finite unregistered (pictured element element.self_mem_all)
      (Resolution.resolve_ok resolved)
    refine measured_fill (measured_applyAttributes finite measured applied) ?_ texts
    intro child member
    obtain ⟨content, isShown, made⟩ := exists_mem_of_forall₂ inside member
    cases content with
    | text text =>
      obtain rfl : child = label _ := made
      have blank : (Node.textual "Label").Measured holds := Node.measured_of_empty rfl rfl
      exact blank.setText _
    | element outer =>
      have among := List.mem_of_mem_filter isShown
      refine ih outer among ?_ made
      intro inner within
      exact pictured inner (Element.mem_all_of_child among within)

end Assembly

namespace Template

/-- Without custom tags, every number in a component is finite, or it is positive infinity and the
document has a picture with a side for its cells that is infinite, or too large for its cells. -/
theorem finite_or_pictured {surroundings : Surroundings} {overrides : Fields String} {source : String}
    {template : Template} (custom : surroundings.registry = .empty)
    (compiled : (compile surroundings overrides source).result = .ok template) :
    ∃ document, Document.parse source = .ok document ∧
      ∀ path node, Node.at? template.roots path = some node →
        ∀ x ∈ Value.fieldNumbers node.properties,
          x.isFinite = true ∨ (Decimal.Boundless x ∧
            ∃ element ∈ document.all, ∃ side, element.AsksSide template.vars side ∧
              (x = side ∨ ∃ count : Nat, 0 < count ∧ count ≤ 256 ∧ x = count.toFloat * side)) := by
  obtain ⟨document, declared, vars, roots, parsed, _, _, built, rfl⟩ := compile_ok compiled
  refine ⟨document, parsed, ?_⟩
  intro path node found
  apply Node.Measured.properties
  refine Node.forall_of_at? (fun _ measured => measured.children) path ?_ found
  intro root member
  obtain ⟨content, isElement, made⟩ := exists_mem_of_forall₂ (Assembly.buildAll_ok built) member
  obtain ⟨element, among, rfl⟩ := List.mem_map.mp isElement
  have unregistered := Registry.factory?_of_empty custom
  refine Assembly.measured_of_build (fun _ => .inl) unregistered element ?_ made
  intro inner within side asks
  have inDocument : inner ∈ document.all := List.mem_flatMap.mpr ⟨element, among, within⟩
  have positive : 0.0 < side := by
    obtain ⟨_, _, _, _, _, _, positive⟩ := asks
    exact positive
  constructor
  · refine (Decimal.finite_or_boundless positive).imp_right ?_
    intro boundless
    exact ⟨boundless, inner, inDocument, side, asks, .inl rfl⟩
  · intro count filled small
    refine (Decimal.finite_or_boundless_mul filled small positive).imp_right ?_
    intro boundless
    exact ⟨boundless, inner, inDocument, side, asks, .inr ⟨count, filled, small, rfl⟩⟩

def dot : List UInt8 :=
  [0x89, 0x50, 0x4E, 0x47, 0x0D, 0x0A, 0x1A, 0x0A, 0x00, 0x00, 0x00, 0x0D, 0x49, 0x48, 0x44, 0x52,
   0x00, 0x00, 0x00, 0x01, 0x00, 0x00, 0x00, 0x01, 0x08, 0x00, 0x00, 0x00, 0x00, 0x3A, 0x7E, 0x9B,
   0x55, 0x00, 0x00, 0x00, 0x0D, 0x49, 0x44, 0x41, 0x54, 0x78, 0x01, 0x01, 0x02, 0x00, 0xFD, 0xFF,
   0x00, 0x00, 0x00, 0x02, 0x00, 0x01, 0x7E, 0x05, 0x0D, 0xD2, 0x00, 0x00, 0x00, 0x00, 0x49, 0x45,
   0x4E, 0x44, 0xAE, 0x42, 0x60, 0x82]

theorem compile_dot :
    (compile ⟨.empty, fun _ => .file dot, none⟩ [] "<_image src='a.png' pixel-size='inf'/>"
      ).result.toOption.map (fun template => (Node.at? template.roots [0]).map fun node =>
        (Value.fieldNumbers node.properties).any fun x => !x.isFinite) = some (some true) := by
  decide +kernel

theorem finite_or_pictured_dot :
    let surroundings : Surroundings := ⟨.empty, fun _ => .file dot, none⟩
    let source := "<_image src='a.png' pixel-size='inf'/>"
    ∃ template node document, (compile surroundings [] source).result = .ok template ∧
      Node.at? template.roots [0] = some node ∧ Document.parse source = .ok document ∧
      ∃ x ∈ Value.fieldNumbers node.properties, Decimal.Boundless x ∧
        ∃ element ∈ document.all, ∃ side, element.AsksSide template.vars side := by
  intro surroundings source
  obtain ⟨template, compiled, seen⟩ := ok_of_toOption_map compile_dot
  obtain ⟨node, found, infinite⟩ := Option.map_eq_some_iff.mp seen
  obtain ⟨x, member, notFinite⟩ := List.any_eq_true.mp infinite
  have isInfinite : x.isFinite = false := by simpa using notFinite
  obtain ⟨document, parsed, all⟩ := finite_or_pictured rfl compiled
  rcases all [0] node found x member with isFinite | ⟨boundless, element, among, side, asks, _⟩
  · rw [isInfinite] at isFinite
    cases isFinite
  · exact ⟨template, node, document, compiled, found, parsed, x, member, boundless, element, among,
      side, asks⟩

/-- Cells of a picture can be infinitely large. -/
theorem infinite_of_pixelSize :
    ∃ template node, (compile ⟨.empty, fun _ => .file dot, none⟩ []
        "<_image src='a.png' pixel-size='inf'/>").result = .ok template ∧
      Node.at? template.roots [0] = some node ∧
      ∃ x ∈ Value.fieldNumbers node.properties, x.isFinite = false := by
  obtain ⟨template, compiled, seen⟩ := ok_of_toOption_map compile_dot
  obtain ⟨node, found, infinite⟩ := Option.map_eq_some_iff.mp seen
  obtain ⟨x, member, notFinite⟩ := List.any_eq_true.mp infinite
  have isInfinite : x.isFinite = false := by simpa using notFinite
  exact ⟨template, node, compiled, found, x, member, isInfinite⟩

end Template

end UiMarkup
