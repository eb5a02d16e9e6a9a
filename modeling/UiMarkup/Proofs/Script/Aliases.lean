import UiMarkup.Proofs.Component.Building
import UiMarkup.Proofs.Component.Commands

namespace UiMarkup

def IsDeclarable (name : String) : Prop :=
  IsAliasName name ∧ isBuiltinAlias name = false

namespace Aliases

/-- What is always there is not declared, and everything else is. -/
theorem declare_ok {aliases later : Aliases} {declared : Bool} {name path : String}
    (h : (aliases.declare name path).result = .ok (later, declared)) :
    (declared = false ∧ isBuiltinAlias name = true ∧ later = aliases) ∨
      (declared = true ∧ isBuiltinAlias name = false ∧ later = ⟨Fields.put aliases.declared name path⟩) := by
  unfold declare at h
  split at h
  · rename_i builtin
    cases h
    exact .inl ⟨rfl, builtin, rfl⟩
  · rename_i notBuiltin
    cases h
    exact .inr ⟨rfl, Bool.eq_false_iff.mpr notBuiltin, rfl⟩

theorem resolve?_eq_some {aliases : Aliases} {name known : String}
    (found : aliases.resolve? name = some known) :
    Text.sameLetters known name = true ∧
      (known ∈ builtinAliases ∨ known ∈ Fields.keys aliases.declared) := by
  unfold resolve? at found
  split at found
  · rename_i isBuiltin
    cases found
    have same := List.find?_some isBuiltin
    exact ⟨same, .inl (List.mem_of_find?_eq_some isBuiltin)⟩
  · have same := List.find?_some found
    exact ⟨same, .inr (List.mem_of_find?_eq_some found)⟩

end Aliases

namespace Script

theorem aliases_declareVariable {scope later : Scope} {line : Nat} {name value : List Char}
    (h : declareVariable scope line name value = .ok later) : later.aliases = scope.aliases := by
  unfold declareVariable at h
  simp only at h
  split at h
  · obtain ⟨read, _, h⟩ := ok_of_bind h
    obtain ⟨vars, _, done⟩ := ok_of_bind h
    cases done
    rfl
  · cases h

theorem aliases_declareAlias {scope later : Scope} {line : Nat} {target name value : List Char}
    (dollar : target = '$' :: name)
    (h : (declareAlias scope line target name value).result = .ok later) :
    later.aliases = scope.aliases ∨ ∃ name path, IsDeclarable name ∧
      later.aliases = ⟨Fields.put scope.aliases.declared name path⟩ := by
  unfold declareAlias at h
  simp only at h
  split at h
  · rename_i valid
    rw [Warned.result_bind] at h
    obtain ⟨literal, _, h⟩ := ok_of_bind h
    cases literal with
    | bare text => cases h
    | quoted path =>
      rw [Warned.result_bind] at h
      obtain ⟨⟨aliases, told⟩, declared, done⟩ := ok_of_bind h
      cases done
      have isName : IsAliasName (String.ofList target) :=
        ⟨String.ofList name, by rw [dollar, ← String.toList_inj]; simp, valid⟩
      rcases Aliases.declare_ok declared with ⟨_, _, same⟩ | ⟨_, notBuiltin, put⟩
      · exact .inl same
      · exact .inr ⟨_, path, ⟨isName, notBuiltin⟩, put⟩
  · cases h

/-- All that a line can do to the aliases. -/
theorem aliases_evaluateLine {scope later : Scope} {number : Nat} {raw : List Char}
    (h : (evaluateLine scope number raw).result = .ok later) :
    later.aliases = scope.aliases ∨ ∃ name path, IsDeclarable name ∧
      later.aliases = ⟨Fields.put scope.aliases.declared name path⟩ := by
  unfold evaluateLine at h
  simp only at h
  split at h
  · cases h
    exact .inl rfl
  · split at h
    · cases h
    · split at h
      · exact .inl (aliases_declareVariable h)
      · rename_i name dollar
        exact aliases_declareAlias dollar h
      · cases h

theorem declarable_evaluateLines {lines : List (List Char)} {scope later : Scope} {number : Nat}
    (declarable : ∀ entry ∈ scope.aliases.declared, IsDeclarable entry.1)
    (h : (evaluateLines scope number lines).result = .ok later) :
    ∀ entry ∈ later.aliases.declared, IsDeclarable entry.1 := by
  induction lines generalizing scope number with
  | nil =>
    cases h
    exact declarable
  | cons line rest ih =>
    rw [evaluateLines, Warned.result_bind] at h
    obtain ⟨next, evaluated, h⟩ := ok_of_bind h
    refine ih ?_ h
    rcases aliases_evaluateLine evaluated with same | ⟨name, path, isDeclarable, put⟩
    · rw [same]
      exact declarable
    · rw [put]
      intro entry member
      rcases Fields.mem_put member with member | rfl
      · exact declarable entry member
      · exact isDeclarable

end Script

namespace Template

theorem declarable_of_compile {surroundings : Surroundings} {overrides : Fields String}
    {source : String} {template : Template}
    (h : (compile surroundings overrides source).result = .ok template) :
    ∀ entry ∈ template.aliases.declared, IsDeclarable entry.1 := by
  obtain ⟨document, declared, vars, roots, _, evaluated, _, _, rfl⟩ := compile_ok h
  have none : ∀ entry ∈ Scope.empty.aliases.declared, IsDeclarable entry.1 := by
    intro entry member
    cases member
  unfold scopeOf at evaluated
  split at evaluated
  · exact Script.declarable_evaluateLines none evaluated
  · cases evaluated
    exact none

theorem render_eq_preamble_append {template : Template} (declared : template.aliases.declared ≠ []) :
    ∃ rest, template.render = template.aliases.preamble ++ rest ∧
      (rest = "" ∨ rest.toList.head? = some '\n') := by
  obtain ⟨entry, others, shape⟩ := List.exists_cons_of_ne_nil declared
  refine ⟨String.ofList (Node.furtherLines template.roots), ?_, ?_⟩
  · have preamble : template.aliases.preamble.toList =
        (Aliases.declaration entry).toList ++ Aliases.furtherDeclarations others := by
      rw [← Aliases.toList_preamble_cons, ← shape]
    apply String.toList_injective
    rw [toList_render_declared shape, String.toList_append, preamble, String.toList_ofList,
      List.append_assoc]
  · cases template.roots with
    | nil => exact .inl rfl
    | cons root roots =>
      right
      rw [String.toList_ofList]
      rfl

end Template

end UiMarkup
