import UiMarkup.Proofs.Component.Building

namespace UiMarkup

/-- A condition that an element has to meet: its tag stands for a component, or one of its style
blocks can be read. -/
inductive Check where
  | tag (written : String) (attributes : Fields String)
  | style (block : String)

def Check.run (surroundings : Surroundings) (aliases : Aliases) : Check → Except Error Unit
  | tag written attributes =>
    (Resolution.resolve surroundings aliases (.ofTag written) attributes).result.map fun _ => ()
  | style block => (Style.parse block).map fun _ => ()

def Attribute.isStyle (given : Attribute) : Bool :=
  !given.binding && Text.lower given.name == "style"

def styleBlocks (vars : Variables) (attributes : List Attribute) : List String :=
  (attributes.filter Attribute.isStyle).map fun given => (Assembly.expanded vars given).getD ""

def Element.checks (vars : Variables) (element : Element) : List Check :=
  .tag element.tag (Assembly.attributeFields vars element.attributes) ::
    (styleBlocks vars element.attributes).map .style

def checksOf (vars : Variables) (elements : List Element) : List Check :=
  (elements.flatMap Element.all).flatMap (Element.checks vars)

section Sequence

variable {α β : Type}

theorem exists_ok_iff {result : Except Error α} :
    (∃ value, result = .ok value) ↔ (result.map fun _ => ()) = .ok () := by
  cases result <;> simp [Except.map]

theorem map_bind_eq {first : Except Error α} {next : α → Except Error β} {after : Except Error Unit}
    (behind : ∀ value, first = .ok value → ((next value).map fun _ => ()) = after) :
    ((first >>= next).map fun _ => ()) = (first.map fun _ => ()) >>= fun _ => after := by
  cases first with
  | error e => rfl
  | ok value => exact behind value rfl

theorem forM_eq_ok_iff {xs : List α} {run : α → Except Error Unit} :
    forM xs run = .ok () ↔ ∀ x ∈ xs, run x = .ok () := by
  induction xs with
  | nil => simp [Pure.pure, Except.pure]
  | cons x xs ih =>
    rw [List.forM_cons, List.forall_mem_cons]
    cases first : run x with
    | error e => simp [Bind.bind, Except.bind]
    | ok value => simpa [Bind.bind, Except.bind] using ih

theorem forM_eq_error_iff {xs : List α} {run : α → Except Error Unit} {e : Error} :
    forM xs run = .error e ↔
      ∃ passed failed rest, xs = passed ++ failed :: rest ∧
        (∀ x ∈ passed, run x = .ok ()) ∧ run failed = .error e := by
  induction xs with
  | nil => simp [Pure.pure, Except.pure]
  | cons x xs ih =>
    rw [List.forM_cons]
    cases first : run x with
    | error e' =>
      constructor
      · rintro ⟨⟩
        exact ⟨[], x, xs, rfl, by simp, first⟩
      · rintro ⟨passed, failed, rest, split, good, bad⟩
        cases passed with
        | nil =>
          obtain ⟨rfl, rfl⟩ := List.cons.inj split
          exact first.symm.trans bad
        | cons y passed =>
          obtain ⟨rfl, rfl⟩ := List.cons.inj split
          have passes := good x (by simp)
          rw [first] at passes
          cases passes
    | ok value =>
      change forM xs run = .error e ↔ _
      rw [ih]
      constructor
      · rintro ⟨passed, failed, rest, rfl, good, bad⟩
        refine ⟨x :: passed, failed, rest, rfl, ?_, bad⟩
        exact List.forall_mem_cons.mpr ⟨first, good⟩
      · rintro ⟨passed, failed, rest, split, good, bad⟩
        cases passed with
        | nil =>
          obtain ⟨rfl, rfl⟩ := List.cons.inj split
          rw [first] at bad
          cases bad
        | cons y passed =>
          obtain ⟨rfl, rfl⟩ := List.cons.inj split
          exact ⟨passed, failed, rest, rfl, (List.forall_mem_cons.mp good).2, bad⟩

end Sequence

namespace Assembly

section Outcome

variable {surroundings : Surroundings} {scope : Scope}

theorem map_applyAttribute {vars : Variables} {origin : Origin} (node : Node) (given : Attribute) :
    ((applyAttribute vars origin node given).map fun _ => ()) =
      if given.isStyle then (Style.parse ((expanded vars given).getD "")).map fun _ => ()
      else .ok () := by
  obtain ⟨key, value, binding⟩ := given
  unfold applyAttribute
  cases binding with
  | true => simp [Attribute.isStyle, Except.map]
  | false =>
    by_cases isId : Text.lower key = "id"
    · simp [Attribute.isStyle, Except.map, isId]
    · by_cases isStyle : Text.lower key = "style"
      · simp only [Attribute.isStyle, isStyle]
        cases Style.parse ((expanded vars ⟨key, value, false⟩).getD "") <;> rfl
      · cases origin.ownsAttributes <;> simp [Attribute.isStyle, Except.map, isId, isStyle]

theorem map_applyAttributes {origin : Origin} (node : Node) (attributes : List Attribute) :
    ((applyAttributes scope.vars origin node attributes).map fun _ => ()) =
      forM ((styleBlocks scope.vars attributes).map Check.style)
        (Check.run surroundings scope.aliases) := by
  induction attributes generalizing node with
  | nil => rfl
  | cons given rest ih =>
    rw [applyAttributes, map_bind_eq fun changed _ => ih changed, map_applyAttribute]
    cases isStyle : given.isStyle with
    | true => simp [styleBlocks, isStyle, Check.run]
    | false =>
      simp only [styleBlocks, List.filter_cons, isStyle]
      rfl

theorem map_buildContents {textBearing : Bool} (contents : List (Content Element))
    (inside : ∀ child, .element child ∈ contents →
      ((build surroundings scope child).result.map fun _ => ()) =
        forM (child.all.flatMap (Element.checks scope.vars)) (Check.run surroundings scope.aliases)) :
    ((buildContents surroundings scope textBearing contents).result.map fun _ => ()) =
      forM ((Content.all contents).flatMap (Element.checks scope.vars))
        (Check.run surroundings scope.aliases) := by
  induction contents with
  | nil =>
    rw [buildContents]
    rfl
  | cons content rest ih =>
    have others := ih fun child member => inside child (List.mem_cons_of_mem _ member)
    cases content with
    | element child =>
      rw [buildContents, Warned.result_bind, Content.all, List.flatMap_append, List.forM_append,
        ← inside child (by simp), ← others]
      refine map_bind_eq fun node _ => ?_
      rw [Warned.result_bind]
      cases (buildContents surroundings scope textBearing rest).result <;> rfl
    | text text =>
      rw [buildContents, Warned.result_bind, Content.all, ← others]
      cases (buildContents surroundings scope textBearing rest).result with
      | error e => rfl
      | ok made => cases textBearing <;> rfl

/-- Building an element fails where the first of the checks in it fails. -/
theorem map_build (element : Element) :
    ((build surroundings scope element).result.map fun _ => ()) =
      forM (element.all.flatMap (Element.checks scope.vars))
        (Check.run surroundings scope.aliases) := by
  induction element using Element.induction with
  | step element ih =>
    obtain ⟨tag, position, attributes, children⟩ := element
    rw [build, Warned.result_bind, Element.all, List.flatMap_cons, List.forM_append, Element.checks,
      List.forM_cons, bind_assoc]
    -- the tag is the first check, the attributes bring the next ones, the contents the others
    refine map_bind_eq fun resolved _ => ?_
    obtain ⟨bare, origin⟩ := resolved
    rw [Warned.result_bind, ← map_applyAttributes bare attributes]
    refine map_bind_eq fun dressed _ => ?_
    rw [Warned.result_bind, ← map_buildContents children ih]
    cases (buildContents surroundings scope dressed.textBearing children).result <;> rfl

theorem map_buildAll (elements : List Element) :
    ((buildAll surroundings scope elements).result.map fun _ => ()) =
      forM (checksOf scope.vars elements) (Check.run surroundings scope.aliases) := by
  induction elements with
  | nil => rfl
  | cons element rest ih =>
    rw [buildAll, Warned.result_bind, checksOf, List.flatMap_cons, List.flatMap_append,
      List.forM_append, ← map_build element]
    refine map_bind_eq fun node _ => ?_
    change _ = forM (checksOf scope.vars rest) _
    rw [Warned.result_bind, ← ih]
    cases (buildAll surroundings scope rest).result <;> rfl

end Outcome

end Assembly

theorem isUnsupported_iff {tag : String} :
    isUnsupported tag = true ↔ ∃ listed ∈ unsupportedTags, Text.lower listed = Text.lower tag := by
  simp only [isUnsupported, List.any_eq_true, Text.sameLetters_iff]

theorem component?_of_isUnsupported {tag : String} (listed : isUnsupported tag = true)
    (attributes : Fields String) : Defaults.component? (Text.lower tag) attributes = none := by
  have none : (unsupportedTags.all fun listed =>
      (Defaults.component? (Text.lower listed) attributes).isNone) = true := by
    rfl
  obtain ⟨known, member, same⟩ := isUnsupported_iff.mp listed
  rw [← same]
  exact Option.isNone_iff_eq_none.mp (List.all_eq_true.mp none known member)

theorem head_of_isUnsupported {tag : String} (listed : isUnsupported tag = true) :
    tag.toList.head? ≠ some '$' ∧ tag.toList.head? ≠ some '_' := by
  have heads : (unsupportedTags.all fun listed =>
      (Text.lower listed).toList.head? != some '$' && (Text.lower listed).toList.head? != some '_') =
        true := by
    decide +kernel
  obtain ⟨known, member, same⟩ := isUnsupported_iff.mp listed
  have differs := List.all_eq_true.mp heads known member
  rw [same] at differs
  simp only [Bool.and_eq_true, bne_iff_ne] at differs
  exact ⟨Text.head?_ne_of_lower rfl differs.1, Text.head?_ne_of_lower rfl differs.2⟩

theorem Resolution.resolve_of_isUnsupported {surroundings : Surroundings} {tag : String}
    (listed : isUnsupported tag = true) (unregistered : surroundings.registry.factory? tag = none)
    (aliases : Aliases) (attributes : Fields String) :
    resolve surroundings aliases (.ofTag tag) attributes = Warned.fail (.tag tag .noComponent) := by
  obtain ⟨noDollar, noUnderscore⟩ := head_of_isUnsupported listed
  rw [resolve_of_unmarked (QualifiedTag.ofTag_of_head noDollar) noUnderscore unregistered]
  simp [plain, component?_of_isUnsupported listed, listed, Warned.ofExcept, Warned.fail]

namespace Assembly

variable {surroundings : Surroundings} {scope : Scope} {elements : List Element}

theorem buildAll_ok_iff :
    (∃ roots, (buildAll surroundings scope elements).result = .ok roots) ↔
      ∀ element ∈ elements.flatMap Element.all,
        (∃ resolved, (Resolution.resolve surroundings scope.aliases (.ofTag element.tag)
          (attributeFields scope.vars element.attributes)).result = .ok resolved) ∧
        ∀ given ∈ element.attributes, given.binding = false → Text.lower given.name = "style" →
          ∃ properties, Style.parse ((expanded scope.vars given).getD "") = .ok properties := by
  rw [exists_ok_iff, map_buildAll, forM_eq_ok_iff]
  simp only [checksOf, List.forall_mem_flatMap, Element.checks, List.forall_mem_cons,
    List.forall_mem_map, styleBlocks, List.mem_filter, Check.run, ← exists_ok_iff]
  simp [Attribute.isStyle]

theorem buildAll_error_iff {e : Error} :
    (buildAll surroundings scope elements).result = .error e ↔
      ∃ passed failed rest, checksOf scope.vars elements = passed ++ failed :: rest ∧
        (∀ check ∈ passed, check.run surroundings scope.aliases = .ok ()) ∧
        failed.run surroundings scope.aliases = .error e := by
  rw [error_iff, map_buildAll, forM_eq_error_iff]

theorem buildAll_of_isUnsupported {element : Element} (member : element ∈ elements.flatMap Element.all)
    (listed : isUnsupported element.tag = true)
    (unregistered : surroundings.registry.factory? element.tag = none) :
    ∃ e, (buildAll surroundings scope elements).result = .error e := by
  cases built : (buildAll surroundings scope elements).result with
  | error e => exact ⟨e, rfl⟩
  | ok roots =>
    obtain ⟨⟨resolved, found⟩, _⟩ := buildAll_ok_iff.mp ⟨roots, built⟩ element member
    rw [Resolution.resolve_of_isUnsupported listed unregistered, Warned.result_fail] at found
    cases found

/-- Elements have components exactly if each of them, however deep, stands for one and has style
blocks that can be read; otherwise the error is that of the first check that fails, where the tag of
an element comes before its style blocks and these before what is inside it. So a tag without a
component anywhere makes the whole fail: no usual element has such a tag. -/
theorem buildAll_first_failure (surroundings : Surroundings) (scope : Scope)
    (elements : List Element) :
    ((∃ roots, (buildAll surroundings scope elements).result = .ok roots) ↔
      ∀ element ∈ elements.flatMap Element.all,
        (∃ resolved, (Resolution.resolve surroundings scope.aliases (.ofTag element.tag)
          (attributeFields scope.vars element.attributes)).result = .ok resolved) ∧
        ∀ given ∈ element.attributes, given.binding = false → Text.lower given.name = "style" →
          ∃ properties, Style.parse ((expanded scope.vars given).getD "") = .ok properties) ∧
    (∀ e, (buildAll surroundings scope elements).result = .error e ↔
      ∃ passed failed rest, checksOf scope.vars elements = passed ++ failed :: rest ∧
        (∀ check ∈ passed, check.run surroundings scope.aliases = .ok ()) ∧
        failed.run surroundings scope.aliases = .error e) ∧
    (∀ element ∈ elements.flatMap Element.all, isUnsupported element.tag = true →
      surroundings.registry.factory? element.tag = none →
        (∀ attributes, Defaults.component? (Text.lower element.tag) attributes = none ∧
          (Resolution.resolve surroundings scope.aliases (.ofTag element.tag) attributes).result =
            .error (.tag element.tag .noComponent)) ∧
        ∃ e, (buildAll surroundings scope elements).result = .error e) := by
  refine ⟨buildAll_ok_iff, fun e => buildAll_error_iff, ?_⟩
  intro element member listed unregistered
  refine ⟨fun attributes => ?_, buildAll_of_isUnsupported member listed unregistered⟩
  rw [Resolution.resolve_of_isUnsupported listed unregistered]
  exact ⟨component?_of_isUnsupported listed attributes, rfl⟩

theorem buildAll_first_failure_table :
    let surroundings : Surroundings := ⟨.empty, fun _ => .directory, none⟩
    let table : Element := ⟨"Table", .start, [], []⟩
    let outer (style : String) : Element :=
      ⟨"div", .start, [⟨"Style", some style, false⟩], [.text "a", .element table]⟩
    (∃ roots, (buildAll surroundings .empty [⟨"P", .start, [], [.text "a"]⟩]).result = .ok roots) ∧
    (buildAll surroundings .empty [outer "color: red"]).result = .error (.tag "Table" .noComponent) ∧
    (buildAll surroundings .empty [outer "colour: red"]).result = .error (.styleProperty "colour") ∧
    ∃ e, (buildAll surroundings .empty [outer "colour: red"]).result = .error e := by
  intro surroundings table outer
  have accepted := (buildAll_first_failure surroundings .empty [⟨"P", .start, [], [.text "a"]⟩]).1
  have second := buildAll_first_failure surroundings .empty [outer "color: red"]
  have first := buildAll_first_failure surroundings .empty [outer "colour: red"]
  refine ⟨accepted.mpr ?_, (second.2.1 _).mpr ?_, (first.2.1 _).mpr ?_,
    (first.2.2 table (by simp [outer, Element.all, Content.all, table]) (by decide +kernel) rfl).2⟩
  · intro element member
    simp only [List.flatMap_cons, List.flatMap_nil, List.append_nil, Element.all, Content.all,
      List.mem_singleton] at member
    subst member
    exact ⟨⟨_, rfl⟩, by simp⟩
  · refine ⟨[.tag "div" [("style", "color: red")], .style "color: red"], .tag "Table" [], [], rfl,
      ?_, rfl⟩
    simp only [List.forall_mem_cons, List.not_mem_nil, false_implies, implies_true, and_true]
    exact ⟨rfl, by decide +kernel⟩
  · refine ⟨[.tag "div" [("style", "colour: red")]], .style "colour: red", [.tag "Table" []], rfl,
      ?_, by decide +kernel⟩
    simp only [List.forall_mem_cons, List.not_mem_nil, false_implies, implies_true, and_true]
    rfl

end Assembly

end UiMarkup
