import Mathlib.Data.List.Find
import UiMarkup.Proofs.Fields
import UiMarkup.Proofs.Script.Aliases

namespace UiMarkup

namespace Aliases

def declareAll (aliases : Aliases) : List (String × String) → Warned Aliases
  | [] => return aliases
  | (name, path) :: rest => do
    let declared ← aliases.declare name path
    declared.1.declareAll rest

def effective (declarations : List (String × String)) : List (String × String) :=
  declarations.filter fun entry => !isBuiltinAlias entry.1

theorem result_declareAll (aliases : Aliases) (declarations : List (String × String)) :
    (aliases.declareAll declarations).result =
      .ok ⟨Fields.putAll aliases.declared (effective declarations)⟩ := by
  induction declarations generalizing aliases with
  | nil => rfl
  | cons entry rest ih =>
    obtain ⟨name, path⟩ := entry
    rw [declareAll, Warned.result_bind]
    by_cases builtin : isBuiltinAlias name = true
    · have kept : (aliases.declare name path).result = .ok (aliases, false) := by
        rw [declare, if_pos builtin]
        rfl
      have ignored : effective ((name, path) :: rest) = effective rest :=
        List.filter_cons_of_neg (by simp [builtin])
      rw [kept, ignored]
      exact ih aliases
    · have put : (aliases.declare name path).result =
          .ok (⟨Fields.put aliases.declared name path⟩, true) := by
        rw [declare, if_neg builtin]
        rfl
      have counts : effective ((name, path) :: rest) = (name, path) :: effective rest :=
        List.filter_cons_of_pos (by simp [builtin])
      rw [put, counts]
      exact ih ⟨Fields.put aliases.declared name path⟩

theorem isBuiltinAlias_congr {name other : String} (letters : Text.lower name = Text.lower other) :
    isBuiltinAlias name = isBuiltinAlias other := by
  simp only [isBuiltinAlias, Text.sameLetters, letters]

theorem resolve?_congr (aliases : Aliases) {name other : String}
    (letters : Text.lower name = Text.lower other) : aliases.resolve? name = aliases.resolve? other := by
  simp only [resolve?, Text.sameLetters, letters]

theorem resolve?_of_notBuiltin (aliases : Aliases) {name : String}
    (notBuiltin : isBuiltinAlias name = false) :
    aliases.resolve? name =
      (Fields.keys aliases.declared).find? fun declared => Text.sameLetters declared name := by
  have none : (builtinAliases.find? fun builtin => Text.sameLetters builtin name) = none := by
    rw [List.find?_eq_none]
    simpa [isBuiltinAlias] using notBuiltin
  rw [resolve?, none]

/-- Names that are never declared do not stand before a spelling of one that is. -/
theorem find?_effective (declarations : List (String × String)) {name : String}
    (notBuiltin : isBuiltinAlias name = false) :
    (Fields.keys (effective declarations)).find? (fun declared => Text.sameLetters declared name) =
      (Fields.keys declarations).find? fun declared => Text.sameLetters declared name := by
  have keys : Fields.keys (effective declarations) =
      (Fields.keys declarations).filter fun declared => !isBuiltinAlias declared := by
    rw [Fields.keys, Fields.keys, effective, List.filter_map]
    rfl
  rw [keys, List.find?_filter]
  apply List.find?_congr
  intro declared _
  by_cases letters : Text.sameLetters declared name = true
  · simp [isBuiltinAlias_congr (Text.sameLetters_iff.mp letters), notBuiltin]
  · simp [letters]

section Declared

variable (declarations : List (String × String))

def ofDeclarations : Aliases :=
  ⟨Fields.ofPairs (effective declarations)⟩

variable {declarations} {name : String}

theorem notBuiltin_of_mem_declared
    (member : name ∈ Fields.keys (ofDeclarations declarations).declared) :
    isBuiltinAlias name = false := by
  rw [ofDeclarations, Fields.keys_ofPairs, List.mem_eraseDups] at member
  obtain ⟨entry, among, rfl⟩ := List.mem_map.mp member
  simpa using (List.mem_filter.mp among).2

theorem resolve?_ofDeclarations (notBuiltin : isBuiltinAlias name = false) :
    (ofDeclarations declarations).resolve? name =
      (Fields.keys declarations).find? fun declared => Text.sameLetters declared name := by
  rw [resolve?_of_notBuiltin _ notBuiltin, ofDeclarations, Fields.keys_ofPairs, Fields.find?_eraseDups,
    find?_effective declarations notBuiltin]

theorem path?_ofDeclarations (notBuiltin : isBuiltinAlias name = false) :
    (ofDeclarations declarations).path? name = Fields.value? declarations.reverse name := by
  rw [path?, ofDeclarations, Fields.value?_ofPairs, effective, ← List.filter_reverse]
  exact Fields.value?_filter (fun declared => !isBuiltinAlias declared) _ (by simp [notBuiltin])

end Declared

end Aliases

theorem Resolution.resolve_of_alias {surroundings : Surroundings} {aliases : Aliases}
    {qualifier known name : String} (attributes : Fields String)
    (unregistered : surroundings.registry.factory? (qualifier ++ "." ++ name) = none)
    (found : aliases.resolve? qualifier = some known) :
    resolve surroundings aliases ⟨some qualifier, name⟩ attributes =
      pure (.textual (known ++ ".@" ++ name), .qualified) := by
  simp only [resolve, QualifiedTag.written, unregistered, found]

namespace Aliases

/-- Every declared alias has the path that was declared last for exactly its spelling. In whatever
letter case it is used, it stands for the first one of its spellings that was declared, and so do
tags that it qualifies, custom tags aside. So it stands for itself, with its own path, if it is
declared in one spelling only. -/
theorem first_spelling_of_declared (declarations : List (String × String)) :
    ∃ aliases, (empty.declareAll declarations).result = .ok aliases ∧
      ∀ name path, (name, path) ∈ aliases.declared →
        aliases.path? name = some path ∧ Fields.value? declarations.reverse name = some path ∧
        ∃ known library,
          (Fields.keys declarations).find? (fun declared => Text.sameLetters declared name) = some known ∧
          (known, library) ∈ aliases.declared ∧ aliases.path? known = some library ∧
          (∀ written, Text.sameLetters written name = true →
            aliases.resolve? written = some known ∧
            ∀ surroundings part attributes,
              surroundings.registry.factory? (written ++ "." ++ part) = none →
              Resolution.resolve surroundings aliases ⟨some written, part⟩ attributes =
                pure (.textual (known ++ ".@" ++ part), .qualified)) ∧
          ((∀ other ∈ Fields.keys aliases.declared,
            Text.sameLetters other name = true → other = name) → known = name ∧ library = path) := by
  refine ⟨ofDeclarations declarations, result_declareAll empty declarations, ?_⟩
  intro name path member
  have distinct := Fields.nodup_keys_ofPairs (effective declarations)
  have isKey : name ∈ Fields.keys (ofDeclarations declarations).declared :=
    List.mem_map_of_mem member
  have notBuiltin := notBuiltin_of_mem_declared isKey
  have isPath := (Fields.value?_eq_some_iff distinct).mpr member
  have resolved := resolve?_of_notBuiltin (ofDeclarations declarations) notBuiltin
  -- the name itself is there to be found, so some spelling is
  obtain ⟨known, found⟩ : ∃ known, (ofDeclarations declarations).resolve? name = some known := by
    rw [resolved, ← Option.isSome_iff_exists, List.find?_isSome]
    exact ⟨name, isKey, Text.sameLetters_refl name⟩
  have letters := List.find?_some (resolved.symm.trans found)
  have isDeclared := List.mem_of_find?_eq_some (resolved.symm.trans found)
  obtain ⟨library, isLibrary⟩ := Fields.mem_keys_iff.mp isDeclared
  refine ⟨isPath, (path?_ofDeclarations notBuiltin).symm.trans isPath, known, library,
    (resolve?_ofDeclarations notBuiltin).symm.trans found, Fields.mem_of_value? isLibrary, isLibrary,
    ?_, ?_⟩
  · intro written same
    have spelled : (ofDeclarations declarations).resolve? written = some known := by
      rw [resolve?_congr _ (Text.sameLetters_iff.mp same)]
      exact found
    refine ⟨spelled, ?_⟩
    intro surroundings part attributes unregistered
    exact Resolution.resolve_of_alias attributes unregistered spelled
  · intro alone
    have itself := alone known isDeclared letters
    subst itself
    exact ⟨rfl, Option.some.inj (isLibrary.symm.trans isPath)⟩

/-- An alias in two spellings, one in a single spelling, and one that cannot be declared. -/
theorem first_spelling_of_declared_shop :
    let declarations := [("$Shop", "a.ui"), ("$c", "b.ui"), ("$shop", "c.ui"), ("$Bar", "d.ui"),
      ("$Shop", "e.ui")]
    ∃ aliases, (empty.declareAll declarations).result = .ok aliases ∧
      aliases.declared = [("$Shop", "e.ui"), ("$shop", "c.ui"), ("$Bar", "d.ui")] ∧
      aliases.resolve? "$SHOP" = some "$Shop" ∧ aliases.path? "$shop" = some "c.ui" ∧
      aliases.resolve? "$BAR" = some "$Bar" := by
  intro declarations
  obtain ⟨aliases, declared, spelled⟩ := first_spelling_of_declared declarations
  have entries : aliases.declared = [("$Shop", "e.ui"), ("$shop", "c.ui"), ("$Bar", "d.ui")] := by
    have all : (empty.declareAll declarations).result.toOption.map Aliases.declared =
        some [("$Shop", "e.ui"), ("$shop", "c.ui"), ("$Bar", "d.ui")] := by
      decide +kernel
    rw [declared] at all
    exact Option.some.inj all
  obtain ⟨isPath, _, shop, _, first, _, _, shops, _⟩ :=
    spelled "$shop" "c.ui" (by rw [entries]; decide)
  obtain ⟨_, _, bar, _, other, _, _, bars, _⟩ := spelled "$Bar" "d.ui" (by rw [entries]; decide)
  have isShop : shop = "$Shop" :=
    Option.some.inj (first.symm.trans (by decide +kernel))
  have isBar : bar = "$Bar" :=
    Option.some.inj (other.symm.trans (by decide +kernel))
  rw [isShop] at shops
  rw [isBar] at bars
  exact ⟨aliases, declared, entries, (shops "$SHOP" (by decide +kernel)).1, isPath,
    (bars "$BAR" (by decide +kernel)).1⟩

/-- A declared alias that stands for another one with another path; its own path is declared in the
commands, and no component is named by it. -/
theorem eclipsed_spelling :
    let source := "<script type='text/customui'>$Shop = \"a.ui\"\n$shop = \"b.ui\"</script><$shop.Slot/>"
    ((empty.declareAll [("$Shop", "a.ui"), ("$shop", "b.ui")]).result.toOption.map fun aliases =>
      (aliases.declared, aliases.resolve? "$shop", aliases.path? "$Shop")) =
      some ([("$Shop", "a.ui"), ("$shop", "b.ui")], some "$Shop", some "a.ui") ∧
    (Template.compile ⟨.empty, fun _ => .directory, none⟩ [] source).result.toOption.map Template.render =
      some "$Shop = \"a.ui\"; $shop = \"b.ui\";\n$Shop.@Slot \x7b \x7d" := by
  decide +kernel

end Aliases

end UiMarkup
