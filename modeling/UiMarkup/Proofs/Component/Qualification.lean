import UiMarkup.Proofs.Component.Provenance
import UiMarkup.Proofs.Script.Aliases

namespace UiMarkup

namespace QualifiedTag

theorem ofTag_qualifier {tag qualifier : String} (isQualified : (ofTag tag).qualifier = some qualifier) :
    tag = qualifier ++ "." ++ (ofTag tag).name ∧ '.' ∉ qualifier.toList ∧ (ofTag tag).name ≠ "" := by
  have written := written_ofTag tag
  rw [QualifiedTag.written, isQualified] at written
  refine ⟨written.symm, ?_⟩
  unfold ofTag at isQualified ⊢
  split at isQualified
  · rename_i before c name found
    obtain ⟨_, first⟩ := Text.cutAt?_eq_some_iff.mp found
    cases isQualified
    simp only [String.toList_ofList]
    refine ⟨first, ?_⟩
    intro empty
    exact absurd (congrArg String.toList empty) (by simp)
  · cases isQualified

end QualifiedTag

theorem Defaults.head_name {node : Node} {name : String} (starts : Starts node)
    (isName : node.name = some name) : name.toList.head? ≠ some '$' := by
  have table : ∀ name ∈ names, name.toList.head? ≠ some '$' := by decide
  cases starts with
  | bare among | one among =>
    cases isName
    exact table name among

theorem Resolution.qualified_of_head {surroundings : Surroundings} {aliases : Aliases}
    {tag : QualifiedTag} {attributes : Fields String} {bare : Node} {origin : Origin} {name : String}
    (unregistered : ∀ tag, surroundings.registry.factory? tag = none)
    (h : Resolves surroundings aliases tag attributes bare origin) (isName : bare.name = some name)
    (dollar : name.toList.head? = some '$') :
    ∃ qualifier known, tag.qualifier = some qualifier ∧ aliases.resolve? qualifier = some known ∧
      name = known ++ ".@" ++ tag.name := by
  cases h with
  | custom found =>
    rw [unregistered] at found
    cases found
  | qualified isQualified found =>
    cases isName
    exact ⟨_, _, isQualified, found, rfl⟩
  | intern isPlain underscore made =>
    rcases intern_ok made with ⟨_, drawn⟩ | ⟨_, id, rfl⟩ | rfl
    · obtain ⟨side, width, height, rows, rfl⟩ := image_ok drawn
      cases isName
      exact absurd dollar (by decide)
    · cases isName
    · cases isName
      exact absurd dollar (by decide)
  | usual isPlain made =>
    exact absurd dollar (Defaults.head_name (Defaults.starts_component? made) isName)
  | named isPlain capital =>
    -- tags like `$` or `$C.` have no alias, and a dollar sign is no capital
    cases isName
    rw [dollar] at capital
    exact absurd capital (by decide)

namespace Assembly

variable {surroundings : Surroundings} {scope : Scope} {node : Node} {name : String}

theorem qualified_of_build {element : Element}
    (unregistered : ∀ tag, surroundings.registry.factory? tag = none)
    (built : (build surroundings scope element).result = .ok node) (isName : node.name = some name)
    (dollar : name.toList.head? = some '$') :
    ∃ qualifier part known, element.tag = qualifier ++ "." ++ part ∧ '.' ∉ qualifier.toList ∧
      part ≠ "" ∧ name = known ++ ".@" ++ part ∧ scope.aliases.resolve? qualifier = some known := by
  obtain ⟨bare, origin, nodes, resolved, _, frame⟩ := build_frame built
  rw [frame.name] at isName
  obtain ⟨qualifier, known, isQualified, isKnown, same⟩ :=
    Resolution.qualified_of_head unregistered (Resolution.resolve_ok resolved) isName dollar
  obtain ⟨tag, point, filled⟩ := QualifiedTag.ofTag_qualifier isQualified
  exact ⟨qualifier, _, known, tag, point, filled, same, isKnown⟩

theorem Stems.exists_element {document : Document} (stems : Stems surroundings scope document node)
    (isName : node.name = some name) (dollar : name.toList.head? = some '$') :
    ∃ element ∈ document.all, (build surroundings scope element).result = .ok node := by
  cases stems with
  | element among built => exact ⟨_, among, built⟩
  | text text =>
    rw [(sameFrame_label text).name] at isName
    cases isName
    exact absurd dollar (by decide)
  | row side pixels =>
    cases isName
    exact absurd dollar (by decide)
  | cell side count pixel =>
    rw [(sameFrame_cell side count pixel).name] at isName
    cases isName
    exact absurd dollar (by decide)

end Assembly

namespace Template

theorem render_of_mem_declared {template : Template} {known library : String}
    (member : (known, library) ∈ template.aliases.declared) :
    ∃ before after rest, template.aliases.declared = before ++ (known, library) :: after ∧
      template.render = String.intercalate " " (before.map Aliases.declaration ++
        (known ++ " = " ++ Quoted.quote library ++ ";") :: after.map Aliases.declaration) ++ rest ∧
      (rest = "" ∨ rest.toList.head? = some '\n') := by
  obtain ⟨before, after, shape⟩ := List.append_of_mem member
  obtain ⟨rest, rendered, lines⟩ := render_eq_preamble_append (List.ne_nil_of_mem member)
  refine ⟨before, after, rest, shape, ?_, lines⟩
  rw [rendered, Aliases.preamble, shape, List.map_append, List.map_cons]
  rfl

/-- No alias is left without its declaration. Without custom tags, scripts declare none of the
aliases that are always there, and a component whose name starts with a dollar sign comes from an
element whose tag has an alias: its name is what follows the alias in the tag, behind the spelling
under which the alias is known. That is one that is always there, or its declaration stands at the
beginning of the commands. -/
theorem declared_of_dollar {surroundings : Surroundings} {overrides : Fields String} {source : String}
    {template : Template} (custom : surroundings.registry = .empty)
    (compiled : (compile surroundings overrides source).result = .ok template) :
    (∀ entry ∈ template.aliases.declared,
      Text.lower entry.1 ≠ Text.lower "$C" ∧ Text.lower entry.1 ≠ Text.lower "$Common") ∧
    ∃ document, Document.parse source = .ok document ∧
      ∀ path node name, Node.at? template.roots path = some node → node.name = some name →
        name.toList.head? = some '$' →
        ∃ element ∈ document.all, ∃ qualifier part known,
          (Assembly.build surroundings ⟨template.vars, template.aliases⟩ element).result = .ok node ∧
          element.tag = qualifier ++ "." ++ part ∧ '.' ∉ qualifier.toList ∧ part ≠ "" ∧
          name = known ++ ".@" ++ part ∧ Text.lower known = Text.lower qualifier ∧
          (known = "$C" ∨ known = "$Common" ∨
            ∃ library before after rest,
              template.aliases.declared = before ++ (known, library) :: after ∧
              template.render = String.intercalate " " (before.map Aliases.declaration ++
                (known ++ " = " ++ Quoted.quote library ++ ";") :: after.map Aliases.declaration) ++ rest ∧
              (rest = "" ∨ rest.toList.head? = some '\n')) := by
  have declarable := declarable_of_compile compiled
  obtain ⟨document, parsed, stems⟩ := stems_of_compile custom compiled
  refine ⟨?_, document, parsed, ?_⟩
  · intro entry member
    have notBuiltin := (declarable entry member).2
    simp only [isBuiltinAlias, builtinAliases, List.any_cons, List.any_nil, Bool.or_false,
      Bool.or_eq_false_iff, Text.sameLetters, beq_eq_false_iff_ne] at notBuiltin
    exact ⟨notBuiltin.1.symm, notBuiltin.2.symm⟩
  · intro path node name found isName dollar
    have unregistered := Registry.factory?_of_empty custom
    obtain ⟨element, among, built⟩ := (stems path node found).exists_element isName dollar
    obtain ⟨qualifier, part, known, tag, point, filled, same, isKnown⟩ :=
      Assembly.qualified_of_build unregistered built isName dollar
    obtain ⟨letters, origin⟩ := Aliases.resolve?_eq_some isKnown
    refine ⟨element, among, qualifier, part, known, built, tag, point, filled, same,
      Text.sameLetters_iff.mp letters, ?_⟩
    rcases origin with isBuiltin | isDeclared
    · simp only [builtinAliases, List.mem_cons, List.not_mem_nil, or_false] at isBuiltin
      exact isBuiltin.imp_right .inl
    · obtain ⟨entry, member, rfl⟩ := List.mem_map.mp isDeclared
      exact .inr (.inr ⟨entry.2, render_of_mem_declared member⟩)

/-- The alias of the inner tag is written in its own way and shown as it is declared. -/
theorem declared_of_dollar_slot :
    let surroundings : Surroundings := ⟨.empty, fun _ => .directory, none⟩
    let source := "<script type='text/customui'>$C = \"other.ui\"\n$Shop = \"shop.ui\"</script>" ++
      "<$c.Panel><$SHOP.Slot/></$c.Panel>"
    ∃ template node document, (compile surroundings [] source).result = .ok template ∧
      template.render = "$Shop = \"shop.ui\";\n$C.@Panel \x7b $Shop.@Slot \x7b \x7d \x7d" ∧
      Node.at? template.roots [0, 0] = some node ∧ node.name = some "$Shop.@Slot" ∧
      Document.parse source = .ok document ∧
      (∀ entry ∈ template.aliases.declared, Text.lower entry.1 ≠ Text.lower "$C") ∧
      ∃ element ∈ document.all, ∃ qualifier part known, element.tag = qualifier ++ "." ++ part ∧
        "$Shop.@Slot" = known ++ ".@" ++ part ∧ Text.lower known = Text.lower qualifier := by
  intro surroundings source
  obtain ⟨template, compiled, seen⟩ := ok_of_toOption_map
    (show (compile surroundings [] source).result.toOption.map (fun template =>
        (template.render, (Node.at? template.roots [0, 0]).bind Node.name)) =
      some ("$Shop = \"shop.ui\";\n$C.@Panel \x7b $Shop.@Slot \x7b \x7d \x7d", some "$Shop.@Slot") by
        decide +kernel)
  obtain ⟨rendered, named⟩ := Prod.mk.inj seen
  obtain ⟨node, found, isName⟩ := Option.bind_eq_some_iff.mp named
  obtain ⟨apart, document, parsed, declared⟩ := declared_of_dollar rfl compiled
  obtain ⟨element, among, qualifier, part, known, _, tag, _, _, same, letters, _⟩ :=
    declared [0, 0] node _ found isName (by decide)
  exact ⟨template, node, document, compiled, rendered, found, isName, parsed,
    fun entry member => (apart entry member).1, element, among, qualifier, part, known, tag, same, letters⟩

end Template

end UiMarkup
