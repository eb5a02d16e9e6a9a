import UiMarkup.Command.Overrides
import UiMarkup.Proofs.Component.Dependence
import UiMarkup.Proofs.Fields
import UiMarkup.Proofs.Text.Bytes

namespace UiMarkup

namespace Fields

def last? {α : Type} (pairs : List (String × α)) (name : String) : Option α :=
  value? pairs.reverse name

theorem perm_of_value?_eq {left right : Fields String} (distinct : (keys left).Nodup)
    (alsoDistinct : (keys right).Nodup) (same : ∀ name, value? left name = value? right name) :
    left.Perm right := by
  have unique : left.Nodup := List.Nodup.of_map Prod.fst distinct
  have alsoUnique : right.Nodup := List.Nodup.of_map Prod.fst alsoDistinct
  rw [List.perm_ext_iff_of_nodup unique alsoUnique]
  rintro ⟨name, value⟩
  rw [← value?_eq_some_iff distinct, ← value?_eq_some_iff alsoDistinct, same name]

end Fields

namespace Variables

theorem setAll_of_invalid (vars : Variables) {before after : List (String × String)}
    {name value : String} (valid : ∀ pair ∈ before, isIdentifier pair.1 = true)
    (invalid : isIdentifier name = false) :
    vars.setAll (before ++ (name, value) :: after) = .error (.variableName name) := by
  induction before generalizing vars with
  | nil =>
    rw [List.nil_append, setAll_cons, invalid]
    rfl
  | cons pair before ih =>
    obtain ⟨earlier, old⟩ := pair
    have first : isIdentifier earlier = true := valid (earlier, old) List.mem_cons_self
    rw [List.cons_append, setAll_cons, if_pos first]
    apply ih
    intro other member
    exact valid other (List.mem_cons_of_mem _ member)

end Variables

namespace Overrides

theorem value?_merge (settings given : List (String × String)) (name : String) :
    Fields.value? (merge settings given) name =
      (Fields.last? given name).or (Fields.last? settings name) := by
  rw [merge, Fields.value?_ofPairs, List.reverse_append, Fields.value?_append]
  rfl

theorem nodup_keys_merge (settings given : List (String × String)) :
    (Fields.keys (merge settings given)).Nodup :=
  Fields.nodup_keys_ofPairs (settings ++ given)

theorem mem_keys_merge {settings given : List (String × String)} {name : String} :
    name ∈ Fields.keys (merge settings given) ↔ name ∈ Fields.keys (settings ++ given) := by
  rw [merge, Fields.keys_ofPairs, List.mem_eraseDups]

end Overrides

namespace Template

section Sorted

variable {overrides : Fields String}

theorem sortedPairs_perm (pairs : List (String × String)) : (sortedPairs pairs).Perm pairs :=
  List.mergeSort_perm pairs _

theorem keys_sortedPairs_perm (pairs : List (String × String)) :
    (Fields.keys (sortedPairs pairs)).Perm (Fields.keys pairs) :=
  (sortedPairs_perm pairs).map Prod.fst

theorem pairwise_keys_sortedPairs (distinct : (Fields.keys overrides).Nodup) :
    (Fields.keys (sortedPairs overrides)).Pairwise (· < ·) := by
  have different : (Fields.keys (sortedPairs overrides)).Nodup :=
    (keys_sortedPairs_perm overrides).nodup_iff.mpr distinct
  have ascending : (Fields.keys (sortedPairs overrides)).Pairwise (· ≤ ·) := by
    rw [Fields.keys, List.pairwise_map]
    refine (pairwise_sortedPairs overrides).imp ?_
    intro a b le
    rcases Prod.Lex.toLex_le_toLex.mp le with less | ⟨same, _⟩
    · exact le_of_lt less
    · exact le_of_eq same
  exact (ascending.and different).imp fun both => lt_of_le_of_ne both.1 both.2

theorem sortedPairs_congr {left right : List (String × String)} (same : left.Perm right) :
    sortedPairs left = sortedPairs right := by
  refine eq_of_pairwise_of_perm (pairwise_sortedPairs left) (pairwise_sortedPairs right) ?_
  exact (sortedPairs_perm left).trans (same.trans (sortedPairs_perm right).symm)

theorem value?_putAll_sortedPairs (vars : Variables) (distinct : (Fields.keys overrides).Nodup)
    (name : String) :
    Fields.value? (Fields.putAll vars (sortedPairs overrides)) name =
      (Fields.value? overrides name).or (Fields.value? vars name) := by
  have turned : overrides.Perm (sortedPairs overrides).reverse :=
    (sortedPairs_perm overrides).symm.trans (List.reverse_perm _).symm
  rw [Fields.value?_putAll, Fields.value?_perm distinct turned]

theorem keys_putAll_sortedPairs (vars : Variables) (distinct : (Fields.keys overrides).Nodup) :
    Fields.keys (Fields.putAll vars (sortedPairs overrides)) =
      Fields.keys vars ++ (Fields.keys (sortedPairs overrides)).filter
        fun name => decide (name ∉ Fields.keys vars) := by
  have different : (Fields.keys (sortedPairs overrides)).Nodup :=
    (keys_sortedPairs_perm overrides).nodup_iff.mpr distinct
  rw [Fields.keys_putAll, Fields.eraseDups_of_nodup different]

/-- The invalid name that setting the overrides in order comes upon first is the smallest one. -/
theorem setAll_sortedPairs_of_invalid (vars : Variables) (distinct : (Fields.keys overrides).Nodup)
    (some_invalid : ∃ name ∈ Fields.keys overrides, isIdentifier name = false) :
    ∃ name ∈ Fields.keys overrides, isIdentifier name = false ∧
      (∀ other ∈ Fields.keys overrides, isIdentifier other = false → name ≤ other) ∧
      vars.setAll (sortedPairs overrides) = .error (.variableName name) := by
  have reordered {name : String} :
      name ∈ Fields.keys (sortedPairs overrides) ↔ name ∈ Fields.keys overrides :=
    (keys_sortedPairs_perm overrides).mem_iff
  have ascending := pairwise_keys_sortedPairs distinct
  obtain ⟨bad, among, isBad⟩ := some_invalid
  obtain ⟨pair, inside, rfl⟩ := List.mem_map.mp (reordered.mpr among)
  have found : ((sortedPairs overrides).find? fun pair => !isIdentifier pair.1).isSome := by
    rw [List.find?_isSome]
    exact ⟨pair, inside, by simp [isBad]⟩
  obtain ⟨⟨name, value⟩, first⟩ := Option.isSome_iff_exists.mp found
  obtain ⟨invalid, before, after, parts, valid⟩ := List.find?_eq_some_iff_append.mp first
  have noIdentifier : isIdentifier name = false := by simpa using invalid
  have identifiers : ∀ pair ∈ before, isIdentifier pair.1 = true := by simpa using valid
  simp only [← reordered]
  rw [parts] at ascending ⊢
  refine ⟨name, ?_, noIdentifier, ?_, vars.setAll_of_invalid identifiers noIdentifier⟩
  · simp [Fields.keys]
  · intro other member otherInvalid
    simp only [Fields.keys, List.map_append, List.map_cons] at ascending member
    rcases List.mem_append.mp member with earlier | later
    · obtain ⟨pair, here, rfl⟩ := List.mem_map.mp earlier
      rw [identifiers pair here] at otherInvalid
      cases otherInvalid
    · rcases List.mem_cons.mp later with rfl | later
      · exact le_refl other
      · have behind := (List.pairwise_cons.mp (List.pairwise_append.mp ascending).2.1).1
        exact le_of_lt (behind other later)

end Sorted

section Scope

variable {surroundings : Surroundings} {source : String} {document : Document} {declared : Scope}

theorem result_compile (overrides : Fields String) (parsed : Document.parse source = .ok document)
    (evaluated : (scopeOf document).result = .ok declared) :
    (compile surroundings overrides source).result = do
      let vars ← declared.vars.setAll (sortedPairs overrides)
      let roots ← (Assembly.buildAll surroundings ⟨vars, declared.aliases⟩ document.elements).result
      return ⟨roots, vars, declared.aliases⟩ := by
  simp only [compile, scopeWith, parsed, Warned.ofExcept_ok_bind, Warned.result_bind, evaluated,
    Warned.result_ofExcept, Warned.result_pure, ok_bind, bind_assoc]
  rfl

end Scope

/-- Of the values for a variable the last one given with the command counts, then the one of the
settings, then the one with which the script ends; the script's names come first, the others follow
them in the order of their bytes. Overrides with the same values compile to the same result, however
they are enumerated, and of the names that no variable can have the smallest one is reported. -/
theorem vars_of_overrides (surroundings : Surroundings) (source : String)
    (settings given : List (String × String)) :
    (∀ template,
      (compile surroundings (Overrides.merge settings given) source).result = .ok template →
      ∃ document declared, Document.parse source = .ok document ∧
        (scopeOf document).result = .ok declared ∧
        (∀ name, Fields.value? template.vars name =
          ((Fields.last? given name).or (Fields.last? settings name)).or
            (Fields.value? declared.vars name)) ∧
        ∃ added, Fields.keys template.vars = Fields.keys declared.vars ++ added ∧
          (added.Pairwise fun first second => Text.bytes first < Text.bytes second) ∧
          ∀ name, name ∈ added ↔
            name ∈ Fields.keys (settings ++ given) ∧ name ∉ Fields.keys declared.vars) ∧
    (∀ left right : Fields String, (Fields.keys left).Nodup → (Fields.keys right).Nodup →
      (∀ name, Fields.value? left name = Fields.value? right name) →
      compile surroundings left source = compile surroundings right source) ∧
    (∀ document declared, Document.parse source = .ok document →
      (scopeOf document).result = .ok declared →
      (∃ name ∈ Fields.keys (settings ++ given), isIdentifier name = false) →
      ∃ name ∈ Fields.keys (settings ++ given), isIdentifier name = false ∧
        (∀ other ∈ Fields.keys (settings ++ given), isIdentifier other = false →
          ¬ Text.bytes other < Text.bytes name) ∧
        (compile surroundings (Overrides.merge settings given) source).result =
          .error (.variableName name)) ∧
    (∀ document declared, Document.parse source = .ok document →
      (scopeOf document).result = .ok declared →
      (∀ name ∈ Fields.keys (settings ++ given), isIdentifier name = true) →
      ∃ vars, (compile surroundings (Overrides.merge settings given) source).result =
        (Assembly.buildAll surroundings ⟨vars, declared.aliases⟩ document.elements).result.map
          fun roots => ⟨roots, vars, declared.aliases⟩) := by
  have distinct := Overrides.nodup_keys_merge settings given
  refine ⟨?_, ?_, ?_, ?_⟩
  · intro template compiled
    obtain ⟨document, declared, vars, roots, parsed, evaluated, set, _, rfl⟩ := compile_ok compiled
    have valid := Variables.isIdentifier_of_setAll set
    have values : vars = Fields.putAll declared.vars (sortedPairs (Overrides.merge settings given)) :=
      Except.ok.inj (set.symm.trans (Variables.setAll_of_identifiers declared.vars valid))
    subst values
    refine ⟨document, declared, parsed, evaluated, ?_, _, keys_putAll_sortedPairs _ distinct, ?_, ?_⟩
    · intro name
      rw [value?_putAll_sortedPairs _ distinct, Overrides.value?_merge]
    · refine ((pairwise_keys_sortedPairs distinct).imp ?_).filter _
      intro first second less
      exact Text.bytes_lt_iff.mpr less
    · intro name
      rw [List.mem_filter, (keys_sortedPairs_perm _).mem_iff, Overrides.mem_keys_merge,
        decide_eq_true_eq]
  · intro left right leftDistinct rightDistinct same
    have reordered := Fields.perm_of_value?_eq leftDistinct rightDistinct same
    rw [compile, compile]
    simp only [scopeWith, sortedPairs_congr reordered]
  · intro document declared parsed evaluated invalid
    simp only [← Overrides.mem_keys_merge] at invalid ⊢
    obtain ⟨name, among, noIdentifier, smallest, set⟩ :=
      setAll_sortedPairs_of_invalid declared.vars distinct invalid
    refine ⟨name, among, noIdentifier, ?_, ?_⟩
    · intro other member otherInvalid less
      exact absurd (Text.bytes_lt_iff.mp less) (not_lt_of_ge (smallest other member otherInvalid))
    · rw [result_compile _ parsed evaluated, set]
      rfl
  · intro document declared parsed evaluated valid
    have identifiers : ∀ pair ∈ sortedPairs (Overrides.merge settings given),
        isIdentifier pair.1 = true := by
      intro pair member
      apply valid
      rw [← Overrides.mem_keys_merge, ← (keys_sortedPairs_perm _).mem_iff]
      exact List.mem_map_of_mem member
    refine ⟨Fields.putAll declared.vars (sortedPairs (Overrides.merge settings given)), ?_⟩
    rw [result_compile _ parsed evaluated, Variables.setAll_of_identifiers _ identifiers]
    rfl

/-- A command gives another value than the settings; values are enumerated in two orders; and some
names are no names of variables. -/
theorem vars_of_overrides_shop :
    let surroundings : Surroundings := ⟨.empty, fun _ => .directory, none⟩
    let source := "<script type='text/customui'>@b = 1\n@a = 2</script><p>@a @b @d</p>"
    let settings := [("a", "3")]
    let given := [("a", "4"), ("é", "5"), ("a", "6"), ("2", "7")]
    (compile surroundings (Overrides.merge settings (given.take 1)) source).result.map render =
      .ok "Label \x7b Text: \"4 1 @d\"; \x7d" ∧
    (∀ template, (compile surroundings (Overrides.merge settings (given.take 1)) source).result =
      .ok template → Fields.value? template.vars "a" = some "4") ∧
    compile surroundings [("c", "8"), ("a", "9")] source =
      compile surroundings [("a", "9"), ("c", "8")] source ∧
    (compile surroundings (Overrides.merge settings given) source).result =
      .error (.variableName "2") := by
  intro surroundings source settings given
  obtain ⟨values, reordered, _, _⟩ := vars_of_overrides surroundings source settings (given.take 1)
  obtain ⟨_, _, invalid, _⟩ := vars_of_overrides surroundings source settings given
  refine ⟨by decide +kernel, ?_, ?_, ?_⟩
  · intro template compiled
    obtain ⟨document, declared, _, _, value, _⟩ := values template compiled
    have ofCommand : (Fields.last? (given.take 1) "a").or (Fields.last? settings "a") = some "4" := by
      decide
    rw [value "a", ofCommand, Option.some_or]
  · refine reordered _ _ (by decide) (by decide) (Fields.value?_perm (by decide) ?_)
    exact List.Perm.swap _ _ []
  · have names : (Document.parse source).toOption.map (fun document =>
        (scopeOf document).result.toOption.map fun declared => Fields.keys declared.vars) =
          some (some ["b", "a"]) := by
      decide +kernel
    obtain ⟨document, parsed, seen⟩ := ok_of_toOption_map names
    obtain ⟨declared, evaluated, _⟩ := ok_of_toOption_map seen
    obtain ⟨name, among, noIdentifier, smallest, result⟩ :=
      invalid document declared parsed evaluated ⟨"2", by decide, by decide⟩
    have least := smallest "2" (by decide) (by decide)
    have cases : name = "a" ∨ name = "é" ∨ name = "a" ∨ name = "2" := by
      simpa [Fields.keys, settings, given] using among
    rcases cases with rfl | rfl | rfl | rfl
    · exact absurd noIdentifier (by decide)
    · exact absurd (by decide) least
    · exact absurd noIdentifier (by decide)
    · exact result

end Template

end UiMarkup
