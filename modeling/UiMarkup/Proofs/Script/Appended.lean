import UiMarkup.Proofs.Markup.Outcome
import UiMarkup.Proofs.Script.Substitution
import UiMarkup.Proofs.Script.Written

namespace UiMarkup.Script

theorem lines_append (content more : String) :
    lines (content ++ "\n" ++ more) = lines content ++ lines more := by
  have written : (content ++ "\n" ++ more).toList = content.toList ++ '\n' :: more.toList := by simp
  rw [lines, written, Text.splitWhere_append_cut (by decide)]
  rfl

theorem evaluate_append (content more : String) (firstLine : Nat) :
    (evaluate (content ++ "\n" ++ more) firstLine).result =
      (evaluate content firstLine).result >>= fun scope =>
        (evaluateLines scope (firstLine + (lines content).length) (lines more)).result := by
  rw [evaluate, lines_append, evaluateLines_append]
  rfl

def overrideLine (pair : String × String) : String :=
  "@" ++ pair.1 ++ " = " ++ (Value.text pair.2).render

theorem written_overrideLine (name : Identifier) (value : String) :
    (Declaration.value name value).Written (overrideLine (name.val, value)).toList := by
  have shape : (overrideLine (name.val, value)).toList =
      [] ++ (('@' :: name.val.toList ++ ([' '] ++ '=' :: ([' '] ++
        ((Value.text value).render.toList ++ [])))) ++ []) := by
    simp [overrideLine]
  rw [shape]
  exact .mk (by decide) (by decide) (by decide) .bare (by decide)

theorem evaluateLine_overrideLine {name value : String} (identifier : isIdentifier name = true)
    (plain : '@' ∉ value.toList) (scope : Scope) (number : Nat) :
    (evaluateLine scope number (overrideLine (name, value)).toList).result =
      .ok ⟨Fields.put scope.vars name value, scope.aliases⟩ := by
  rw [evaluateLine_of_written (written_overrideLine ⟨name, identifier⟩ value), Declaration.setIn,
    scope.vars.substitute_of_notMem plain]
  rfl

theorem evaluateLines_overrides {pairs : List (String × String)}
    (identifiers : ∀ pair ∈ pairs, isIdentifier pair.1 = true)
    (plain : ∀ pair ∈ pairs, '@' ∉ pair.2.toList) (scope : Scope) (number : Nat) :
    (evaluateLines scope number ((pairs.map overrideLine).map String.toList)).result =
      .ok ⟨Fields.putAll scope.vars pairs, scope.aliases⟩ := by
  induction pairs generalizing scope number with
  | nil => rfl
  | cons pair pairs ih =>
    rw [List.forall_mem_cons] at identifiers plain
    rw [List.map_cons, List.map_cons, evaluateLines, Warned.result_bind,
      evaluateLine_overrideLine identifiers.1 plain.1]
    exact ih identifiers.2 plain.2 _ (number + 1)

/-- A script that declares values at its end has the variables that overriding them gives, with the
same values in the same order, and the aliases are untouched. -/
theorem evaluate_append_overrides {content : String} {firstLine : Nat} {scope : Scope}
    (evaluated : (evaluate content firstLine).result = .ok scope) {pairs : List (String × String)}
    (identifiers : ∀ pair ∈ pairs, isIdentifier pair.1 = true)
    (plain : ∀ pair ∈ pairs, '@' ∉ pair.2.toList) :
    ∃ vars, scope.vars.setAll pairs = .ok vars ∧
      (evaluate (content ++ "\n" ++ String.intercalate "\n" (pairs.map overrideLine)) firstLine).result =
        .ok ⟨vars, scope.aliases⟩ := by
  refine ⟨_, scope.vars.setAll_of_identifiers identifiers, ?_⟩
  have inLine : ∀ line ∈ (pairs.map overrideLine).map String.toList, '\n' ∉ line := by
    rw [List.forall_mem_map, List.forall_mem_map]
    intro pair member
    exact (written_overrideLine ⟨pair.1, identifiers pair member⟩ pair.2).inLine
  have joined := Text.toList_intercalate "\n" (pairs.map overrideLine)
  rw [evaluate_append, evaluated, ok_bind, evaluateLines_joinWith joined inLine,
    evaluateLines_overrides identifiers plain]

theorem evaluate_append_overrides_shop :
    let content := "@a = 1\n$Shop = \"shop.ui\"\n@b = \"<@a>\"\n// end"
    let pairs := [("b", "\"=\n;"), ("c", ""), ("a", "//"), ("c", " 2 ")]
    let declared := "@b = \"\\\"=\\n;\"\n@c = \"\"\n@a = \"//\"\n@c = \" 2 \""
    String.intercalate "\n" (pairs.map overrideLine) = declared ∧
      ∃ scope, (evaluate content 3).result = .ok scope ∧ scope.vars = [("a", "1"), ("b", "<1>")] ∧
        (evaluate (content ++ "\n" ++ declared) 3).result =
          .ok ⟨[("a", "//"), ("b", "\"=\n;"), ("c", " 2 ")], scope.aliases⟩ := by
  intro content pairs declared
  have seen : (evaluate content 3).result.toOption.map Scope.vars = some [("a", "1"), ("b", "<1>")] := by
    decide +kernel
  obtain ⟨scope, evaluated, values⟩ := ok_of_toOption_map seen
  have written : String.intercalate "\n" (pairs.map overrideLine) = declared := by decide +kernel
  have identifiers : ∀ pair ∈ pairs, isIdentifier pair.1 = true := by decide
  have plain : ∀ pair ∈ pairs, '@' ∉ pair.2.toList := by decide
  obtain ⟨vars, overridden, appended⟩ := evaluate_append_overrides evaluated identifiers plain
  have expected : Variables.setAll [("a", "1"), ("b", "<1>")] pairs =
      .ok [("a", "//"), ("b", "\"=\n;"), ("c", " 2 ")] := by rfl
  rw [values, expected, Except.ok.injEq] at overridden
  rw [written, ← overridden] at appended
  exact ⟨written, scope, evaluated, values, appended⟩

end UiMarkup.Script
