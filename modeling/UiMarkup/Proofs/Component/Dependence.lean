import Mathlib.Data.Prod.Lex
import Mathlib.Data.String.Basic
import UiMarkup.Proofs.Component.Building
import UiMarkup.Proofs.Script.Variables

namespace UiMarkup

/-- The element refers to a variable in the value of an attribute that is not a binding, or in a text
right inside it. -/
def Element.Mentions (element : Element) (name : String) : Prop :=
  (∃ given ∈ element.attributes, given.binding = false ∧
    ∃ value ∈ given.value, Refers value.toList name) ∨
  ∃ text, .text text ∈ element.children ∧ Refers text.toList name

def Element.mentioned (element : Element) : List String :=
  (element.attributes.flatMap fun given =>
    if given.binding then [] else given.value.toList.flatMap fun value => Variables.references value.toList)
  ++ element.children.flatMap fun
    | .text text => Variables.references text.toList
    | .element _ => []

theorem Element.mentions_iff {element : Element} {name : String} :
    element.Mentions name ↔ name ∈ element.mentioned := by
  have attributes (given : Attribute) :
      (given.binding = false ∧ ∃ value ∈ given.value, Refers value.toList name) ↔
        name ∈ if given.binding then []
          else given.value.toList.flatMap fun value => Variables.references value.toList := by
    cases given.binding <;> simp [Variables.refers_iff_mem_references]
  have texts (content : Content Element) :
      (∃ text, .text text = content ∧ Refers text.toList name) ↔
        name ∈ (match content with
          | .text text => Variables.references text.toList
          | .element _ => []) := by
    cases content <;> simp [Variables.refers_iff_mem_references]
  simp only [Mentions, mentioned, List.mem_append, List.mem_flatMap, attributes, ← texts]
  grind

theorem Warned.ofExcept_ok_bind {α β : Type} (a : α) (next : α → Warned β) :
    (Warned.ofExcept (.ok a) >>= next) = next a :=
  rfl

theorem Registry.factory?_register {registry : Registry} {name tag : String} (factory : Factory)
    (ne : Text.lower tag ≠ Text.lower name) :
    (registry.register name factory).factory? tag = registry.factory? tag :=
  Fields.value?_put_of_ne registry.factories factory ne

namespace Resolution

variable {registry otherRegistry : Registry} {openFile : String → Picture.Opened}
  {directory : Option String}

theorem resolve_congr {aliases : Aliases} {tag : QualifiedTag} (attributes : Fields String)
    (same : registry.factory? tag.written = otherRegistry.factory? tag.written) :
    resolve ⟨registry, openFile, directory⟩ aliases tag attributes =
      resolve ⟨otherRegistry, openFile, directory⟩ aliases tag attributes := by
  unfold resolve
  simp only [same]
  rfl

end Resolution

namespace Assembly

section Attributes

variable {vars others : Variables}

theorem expanded_congr {given : Attribute}
    (same : given.binding = false → ∀ value ∈ given.value, ∀ name, Refers value.toList name →
      Fields.value? vars name = Fields.value? others name) :
    expanded vars given = expanded others given := by
  obtain ⟨key, value, binding⟩ := given
  cases binding with
  | true => rfl
  | false =>
    cases value with
    | none => rfl
    | some value =>
      have replaced := Variables.substitute_congr (same rfl value rfl)
      simp [expanded, replaced]

theorem attributeFields_congr {attributes : List Attribute}
    (same : ∀ given ∈ attributes, expanded vars given = expanded others given) :
    attributeFields vars attributes = attributeFields others attributes := by
  unfold attributeFields
  congr 1
  apply List.map_congr_left
  intro given member
  rw [same given (List.mem_filter.mp member).1]

theorem applyAttributes_congr {origin : Origin} {attributes : List Attribute}
    (same : ∀ given ∈ attributes, expanded vars given = expanded others given) (node : Node) :
    applyAttributes vars origin node attributes = applyAttributes others origin node attributes := by
  induction attributes generalizing node with
  | nil => rfl
  | cons given rest ih =>
    have first : applyAttribute vars origin node given = applyAttribute others origin node given := by
      unfold applyAttribute
      rw [same given (by simp)]
    rw [applyAttributes, applyAttributes, first]
    congr 1
    funext changed
    exact ih (fun other member => same other (List.mem_cons_of_mem _ member)) changed

end Attributes

section Build

variable {surroundings otherSurroundings : Surroundings} {scope otherScope : Scope}

theorem buildContents_congr {textBearing : Bool} {contents : List (Content Element)}
    (elements : ∀ child, .element child ∈ contents →
      build surroundings scope child = build otherSurroundings otherScope child)
    (texts : ∀ text, .text text ∈ contents →
      scope.vars.substitute text = otherScope.vars.substitute text) :
    buildContents surroundings scope textBearing contents =
      buildContents otherSurroundings otherScope textBearing contents := by
  induction contents with
  | nil => rfl
  | cons content rest ih =>
    have inside := ih (fun child member => elements child (List.mem_cons_of_mem _ member))
      (fun text member => texts text (List.mem_cons_of_mem _ member))
    cases content with
    | element child => rw [buildContents, buildContents, elements child (by simp), inside]
    | text text => rw [buildContents, buildContents, texts text (by simp), inside]

variable {registry otherRegistry : Registry} {openFile : String → Picture.Opened}
  {directory : Option String} {vars others : Variables} {aliases : Aliases}

theorem build_congr (element : Element)
    (values : ∀ inner ∈ element.all, ∀ name, inner.Mentions name →
      Fields.value? vars name = Fields.value? others name)
    (tags : ∀ inner ∈ element.all,
      registry.factory? inner.tag = otherRegistry.factory? inner.tag) :
    build ⟨registry, openFile, directory⟩ ⟨vars, aliases⟩ element =
      build ⟨otherRegistry, openFile, directory⟩ ⟨others, aliases⟩ element := by
  induction element using Element.induction with
  | step element ih =>
    have here := values element element.self_mem_all
    have texts (text : String) (member : .text text ∈ element.children) :
        vars.substitute text = others.substitute text := by
      apply Variables.substitute_congr
      intro name refers
      exact here name (.inr ⟨text, member, refers⟩)
    have attributes (given : Attribute) (member : given ∈ element.attributes) :
        expanded vars given = expanded others given := by
      apply expanded_congr
      intro plain value held name refers
      exact here name (.inl ⟨given, member, plain, value, held, refers⟩)
    have children (child : Element) (member : .element child ∈ element.children) :
        build ⟨registry, openFile, directory⟩ ⟨vars, aliases⟩ child =
          build ⟨otherRegistry, openFile, directory⟩ ⟨others, aliases⟩ child := by
      apply ih child member
      · intro inner inside
        exact values inner (Element.mem_all_of_child member inside)
      · intro inner inside
        exact tags inner (Element.mem_all_of_child member inside)
    have tag : registry.factory? (QualifiedTag.ofTag element.tag).written =
        otherRegistry.factory? (QualifiedTag.ofTag element.tag).written := by
      rw [QualifiedTag.written_ofTag]
      exact tags element element.self_mem_all
    obtain ⟨name, position, given, contents⟩ := element
    rw [build, build]
    simp only [attributeFields_congr attributes, Resolution.resolve_congr _ tag,
      applyAttributes_congr attributes, buildContents_congr children texts]

theorem buildAll_congr (elements : List Element)
    (values : ∀ inner ∈ elements.flatMap Element.all, ∀ name, inner.Mentions name →
      Fields.value? vars name = Fields.value? others name)
    (tags : ∀ inner ∈ elements.flatMap Element.all,
      registry.factory? inner.tag = otherRegistry.factory? inner.tag) :
    buildAll ⟨registry, openFile, directory⟩ ⟨vars, aliases⟩ elements =
      buildAll ⟨otherRegistry, openFile, directory⟩ ⟨others, aliases⟩ elements := by
  induction elements with
  | nil => rfl
  | cons element rest ih =>
    simp only [List.flatMap_cons, List.mem_append] at values tags
    rw [buildAll, buildAll, build_congr element (fun inner member => values inner (.inl member))
      (fun inner member => tags inner (.inl member))]
    rw [ih (fun inner member => values inner (.inr member))
      (fun inner member => tags inner (.inr member))]

end Build

end Assembly

namespace Template

theorem pairwise_sortedPairs (pairs : List (String × String)) :
    (sortedPairs pairs).Pairwise fun a b => toLex a ≤ toLex b := by
  have order (a b : String × String) :
      (decide (a.1 < b.1) || (a.1 == b.1 && decide (a.2 ≤ b.2))) = decide (toLex a ≤ toLex b) := by
    rw [Bool.eq_iff_iff, decide_eq_true_eq, Prod.Lex.toLex_le_toLex]
    simp
  unfold sortedPairs
  simp only [order]
  refine List.Pairwise.imp of_decide_eq_true (List.pairwise_mergeSort ?_ ?_ pairs)
  · intro a b c first second
    exact decide_eq_true (le_trans (of_decide_eq_true first) (of_decide_eq_true second))
  · intro a b
    simpa using le_total (toLex a) (toLex b)

theorem eq_of_pairwise_of_perm {pairs others : List (String × String)}
    (sorted : pairs.Pairwise fun a b => toLex a ≤ toLex b)
    (otherSorted : others.Pairwise fun a b => toLex a ≤ toLex b) (same : pairs.Perm others) :
    pairs = others := by
  refine List.Perm.eq_of_pairwise ?_ sorted otherSorted same
  intro a b _ _ le ge
  exact toLex_inj.mp (le_antisymm le ge)

theorem filter_sortedPairs {keep : String × String → Bool} {pairs others : List (String × String)}
    (same : pairs.filter keep = others.filter keep) :
    (sortedPairs pairs).filter keep = (sortedPairs others).filter keep := by
  have sorted := (pairwise_sortedPairs pairs).filter keep
  have otherSorted := (pairwise_sortedPairs others).filter keep
  have left : ((sortedPairs pairs).filter keep).Perm (pairs.filter keep) :=
    (List.mergeSort_perm pairs _).filter keep
  have right : ((sortedPairs others).filter keep).Perm (others.filter keep) :=
    (List.mergeSort_perm others _).filter keep
  rw [same] at left
  exact eq_of_pairwise_of_perm sorted otherSorted (left.trans right.symm)

theorem filter_put (overrides : Fields String) (name value : String) :
    (Fields.put overrides name value).filter (fun pair => pair.1 != name) =
      overrides.filter fun pair => pair.1 != name := by
  induction overrides with
  | nil => simp [Fields.put]
  | cons pair rest ih =>
    obtain ⟨key, old⟩ := pair
    by_cases same : key = name
    · simp [Fields.put, same]
    · simp [Fields.put, same, ih]

theorem result_commands (surroundings : Surroundings) (overrides : Fields String) (source : String) :
    (compile surroundings overrides source).result.map commands = do
      let document ← Document.parse source
      let declared ← (scopeOf document).result
      let vars ← declared.vars.setAll (sortedPairs overrides)
      let roots ← (Assembly.buildAll surroundings ⟨vars, declared.aliases⟩ document.elements).result
      return roots.map Node.render := by
  change commands <$> (compile surroundings overrides source).result = _
  simp only [compile, scopeWith, Warned.result_bind, Warned.result_ofExcept, Warned.result_pure,
    bind_assoc, map_bind]
  rfl

theorem setAll_sortedPairs_put (vars : Variables) (overrides : Fields String) {name : String}
    (value : String) (valid : isIdentifier name = true) :
    (vars.setAll (sortedPairs (Fields.put overrides name value))).map (Variables.valuesBut name) =
      (vars.setAll (sortedPairs overrides)).map (Variables.valuesBut name) := by
  have given := Variables.setAll_filter valid (rfl : Variables.valuesBut name vars = _)
    (sortedPairs (Fields.put overrides name value))
  rw [filter_sortedPairs (filter_put overrides name value)] at given
  rw [given, ← Variables.setAll_filter valid rfl]

/-- Where two results look the same to what follows, it goes on in the same way. -/
theorem bind_eq_of_map_eq {ε α β γ : Type} {first second : Except ε α} {view : α → γ}
    {next : α → Except ε β} (same : first.map view = second.map view)
    (through : ∀ a b, view a = view b → next a = next b) : first >>= next = second >>= next := by
  cases first with
  | error e =>
    cases second with
    | error e' =>
      cases same
      rfl
    | ok b => cases same
  | ok a =>
    cases second with
    | error e => cases same
    | ok b => exact through a b (Except.ok.inj same)

section Dependence

variable {registry : Registry} {openFile : String → Picture.Opened} {directory : Option String}
  {overrides : Fields String} {source : String}

theorem commands_put {name : String} (value : String) (valid : isIdentifier name = true)
    (unmentioned : ∀ document, Document.parse source = .ok document →
      ∀ element ∈ document.all, ¬ element.Mentions name) :
    (compile ⟨registry, openFile, directory⟩ (Fields.put overrides name value) source).result.map
        commands =
      (compile ⟨registry, openFile, directory⟩ overrides source).result.map commands := by
  rw [result_commands, result_commands]
  cases parsed : Document.parse source with
  | error e => rfl
  | ok document =>
    cases evaluated : (scopeOf document).result with
    | error e => simp only [Bind.bind, Except.bind, evaluated]
    | ok declared =>
      simp only [ok_bind, evaluated]
      refine bind_eq_of_map_eq (setAll_sortedPairs_put declared.vars overrides value valid) ?_
      intro vars others values
      rw [Assembly.buildAll_congr document.elements ?_ fun _ _ => rfl]
      intro element member asked mentions
      refine Variables.valuesBut_apply ?_ values
      rintro rfl
      exact unmentioned document parsed element member mentions

theorem error_of_invalid_override {surroundings : Surroundings} {name : String} (value : String)
    (invalid : isIdentifier name = false) :
    ∃ e, (compile surroundings (Fields.put overrides name value) source).result = .error e := by
  cases compiled : (compile surroundings (Fields.put overrides name value) source).result with
  | error e => exact ⟨e, rfl⟩
  | ok template =>
    obtain ⟨document, declared, vars, roots, _, _, given, _⟩ := compile_ok compiled
    have member : (name, value) ∈ sortedPairs (Fields.put overrides name value) :=
      (List.mergeSort_perm _ _).mem_iff.mpr
        (Fields.mem_of_value? (Fields.value?_put_self overrides name value))
    have valid := Variables.isIdentifier_of_setAll given _ member
    rw [invalid] at valid
    cases valid

theorem compile_register {tag : String} (factory : Factory)
    (unused : ∀ document, Document.parse source = .ok document →
      ∀ element ∈ document.all, Text.sameLetters element.tag tag = false) :
    compile ⟨registry.register tag factory, openFile, directory⟩ overrides source =
      compile ⟨registry, openFile, directory⟩ overrides source := by
  cases parsed : Document.parse source with
  | error e =>
    simp only [compile, parsed]
    rfl
  | ok document =>
    have built (scope : Scope) :
        Assembly.buildAll ⟨registry.register tag factory, openFile, directory⟩ scope
          document.elements =
        Assembly.buildAll ⟨registry, openFile, directory⟩ scope document.elements := by
      refine Assembly.buildAll_congr document.elements (fun _ _ _ _ => rfl) ?_
      intro element member
      apply Registry.factory?_register
      have differs := unused document parsed element member
      simpa [Text.sameLetters] using differs
    simp only [compile, parsed, Warned.ofExcept_ok_bind, built]

end Dependence

/-- The components of a document depend on the variables that it mentions and on the custom tags that
it uses, and on no others. So neither the value of a variable that a text never mentions nor a custom
tag that it never uses changes its commands; only a name that no variable can have is refused. -/
theorem depends_on_mentioned (openFile : String → Picture.Opened) (directory : Option String) :
    (∀ (elements : List Element) (aliases : Aliases) (vars others : Variables)
        (registry otherRegistry : Registry),
      (∀ element ∈ elements.flatMap Element.all, ∀ name, element.Mentions name →
        Fields.value? vars name = Fields.value? others name) →
      (∀ element ∈ elements.flatMap Element.all,
        registry.factory? element.tag = otherRegistry.factory? element.tag) →
      Assembly.buildAll ⟨registry, openFile, directory⟩ ⟨vars, aliases⟩ elements =
        Assembly.buildAll ⟨otherRegistry, openFile, directory⟩ ⟨others, aliases⟩ elements) ∧
    (∀ (registry : Registry) (overrides : Fields String) (source name value : String),
      (∀ document, Document.parse source = .ok document →
        ∀ element ∈ document.all, ¬ element.Mentions name) →
      (compile ⟨registry, openFile, directory⟩ (Fields.put overrides name value) source).result.map
          commands =
        (compile ⟨registry, openFile, directory⟩ overrides source).result.map commands ∨
      isIdentifier name = false ∧ ∃ e, (compile ⟨registry, openFile, directory⟩
        (Fields.put overrides name value) source).result = .error e) ∧
    (∀ (registry : Registry) (overrides : Fields String) (source tag : String) (factory : Factory),
      (∀ document, Document.parse source = .ok document →
        ∀ element ∈ document.all, Text.sameLetters element.tag tag = false) →
      compile ⟨registry.register tag factory, openFile, directory⟩ overrides source =
        compile ⟨registry, openFile, directory⟩ overrides source) := by
  refine ⟨?_, ?_, ?_⟩
  · intro elements aliases vars others registry otherRegistry values tags
    exact Assembly.buildAll_congr elements values tags
  · intro registry overrides source name value unmentioned
    cases valid : isIdentifier name with
    | true => exact .inl (commands_put value valid unmentioned)
    | false => exact .inr ⟨rfl, error_of_invalid_override value valid⟩
  · intro registry overrides source tag factory unused
    exact compile_register factory unused

theorem depends_on_mentioned_paragraph :
    let source := "<p title='@a' :value='@b'>to @a</p>"
    let surroundings (registry : Registry) : Surroundings := ⟨registry, fun _ => .directory, none⟩
    let row : Registry := Registry.empty.register "row" fun _ => .component "Row"
    (∃ document, Document.parse source = .ok document ∧
      Assembly.buildAll (surroundings row) ⟨[("b", "2"), ("a", "1")], .empty⟩ document.elements =
        Assembly.buildAll (surroundings .empty) ⟨[("a", "1")], .empty⟩ document.elements) ∧
    (compile (surroundings .empty) (Fields.put [("a", "1")] "b" "2") source).result.map commands =
      .ok ["Label \x7b TooltipText: \"1\"; Value: @b; Text: \"to 1\"; \x7d"] ∧
    compile (surroundings row) [] source = compile (surroundings .empty) [] source := by
  intro source surroundings row
  have mentioned : (Document.parse source).toOption.map (fun document =>
      (document.all.flatMap Element.mentioned, document.all.map Element.tag)) =
        some (["a", "a"], ["p"]) := by
    decide +kernel
  obtain ⟨document, parsed, seen⟩ := ok_of_toOption_map mentioned
  obtain ⟨names, tags⟩ := Prod.mk.inj seen
  have only (element : Element) (member : element ∈ document.all) :
      element.tag = "p" ∧ ∀ name, element.Mentions name → name = "a" := by
    constructor
    · have tag := List.mem_map_of_mem member (f := Element.tag)
      rw [tags] at tag
      simpa using tag
    · intro name mentions
      have found := List.mem_flatMap.mpr ⟨element, member, Element.mentions_iff.mp mentions⟩
      rw [names] at found
      simpa using found
  obtain ⟨built, given, registered⟩ := depends_on_mentioned (fun _ => .directory) none
  refine ⟨⟨document, parsed, ?_⟩, ?_, ?_⟩
  · refine built document.elements .empty _ _ _ _ ?_ ?_
    · intro element member name mentions
      rw [(only element member).2 name mentions]
      rfl
    · intro element member
      rw [(only element member).1]
      rfl
  · have unmentioned (read : Document) (again : Document.parse source = .ok read) (element : Element)
        (member : element ∈ read.all) : ¬ element.Mentions "b" := by
      cases parsed.symm.trans again
      intro mentions
      exact absurd ((only element member).2 "b" mentions) (by decide)
    rcases given .empty [("a", "1")] source "b" "2" unmentioned with same | ⟨invalid, _⟩
    · rw [same]
      decide +kernel
    · exact absurd invalid (by decide)
  · refine registered .empty [] source "row" _ ?_
    intro read again element member
    cases parsed.symm.trans again
    rw [(only element member).1]
    decide

end Template

end UiMarkup
