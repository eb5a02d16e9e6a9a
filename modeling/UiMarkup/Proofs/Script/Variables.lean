import UiMarkup.Proofs.Fields
import UiMarkup.Proofs.Text.Runs
import UiMarkup.Script.Variables

namespace UiMarkup

theorem letters_of_isIdentifier {name : String} (identifier : isIdentifier name = true) :
    ∃ c rest, name.toList = c :: rest ∧ isIdentifierStart c = true ∧
      ∀ d ∈ rest, isIdentifierPart d = true := by
  unfold isIdentifier at identifier
  split at identifier
  · contradiction
  · rename_i c rest letters
    simp only [Bool.and_eq_true, List.all_eq_true] at identifier
    exact ⟨c, rest, letters, identifier⟩

theorem isIdentifierPart_of_isIdentifierStart {c : Char} (start : isIdentifierStart c = true) :
    isIdentifierPart c = true := by
  simp only [isIdentifierStart, isIdentifierPart, Char.isAlphanum, Bool.or_eq_true] at start ⊢
  exact start.imp_left .inl

theorem isIdentifierPart_of_mem {name : String} (identifier : isIdentifier name = true) {c : Char}
    (member : c ∈ name.toList) : isIdentifierPart c = true := by
  obtain ⟨first, rest, letters, start, parts⟩ := letters_of_isIdentifier identifier
  rw [letters] at member
  rcases List.mem_cons.mp member with rfl | member
  · exact isIdentifierPart_of_isIdentifierStart start
  · exact parts c member

/-- The name stands in the text behind `@`, up to its last letter: the text does not go on with a
character that could belong to the name. -/
def Refers (text : List Char) (name : String) : Prop :=
  ∃ before after, text = before ++ '@' :: (name.toList ++ after) ∧
    isIdentifier name = true ∧ Stops isIdentifierPart after

theorem Refers.append_left {text : List Char} {name : String} (refers : Refers text name)
    (front : List Char) : Refers (front ++ text) name := by
  obtain ⟨before, after, rfl, identifier, stop⟩ := refers
  exact ⟨front ++ before, after, by simp, identifier, stop⟩

theorem Refers.of_drop {text : List Char} {name : String} {count : Nat}
    (refers : Refers (text.drop count) name) : Refers text name := by
  have whole := refers.append_left (text.take count)
  rwa [List.take_append_drop] at whole

namespace Variables

theorem referenced_of_start {c : Char} {rest : List Char} (start : isIdentifierStart c = true) :
    referenced (c :: rest) = c :: rest.takeWhile isIdentifierPart := by
  simp [referenced, start]

theorem referenced_of_not_start {c : Char} {rest : List Char} (start : isIdentifierStart c = false) :
    referenced (c :: rest) = [] := by
  simp [referenced, start]

theorem referenced_append {name : String} {after : List Char} (identifier : isIdentifier name = true)
    (stop : Stops isIdentifierPart after) : referenced (name.toList ++ after) = name.toList := by
  obtain ⟨c, rest, letters, start, parts⟩ := letters_of_isIdentifier identifier
  rw [letters, List.cons_append, referenced_of_start start, stop.takeWhile_append parts]

theorem refers_referenced {rest : List Char} (found : referenced rest ≠ []) :
    Refers ('@' :: rest) (String.ofList (referenced rest)) := by
  cases rest with
  | nil => exact absurd rfl found
  | cons c rest =>
    cases start : isIdentifierStart c with
    | false => exact absurd (referenced_of_not_start start) found
    | true =>
      rw [referenced_of_start start]
      refine ⟨[], rest.dropWhile isIdentifierPart, ?_, ?_, ?_⟩
      · simp
      · simp only [isIdentifier, String.toList_ofList, start, Bool.true_and, List.all_eq_true]
        intro d member
        exact List.mem_takeWhile_imp member
      · intro d head
        have outside := List.head?_dropWhile_not isIdentifierPart rest
        rw [Option.mem_def.mp head] at outside
        simpa using outside

def references : List Char → List String
  | [] => []
  | c :: rest =>
    if c = '@' ∧ referenced rest ≠ [] then String.ofList (referenced rest) :: references rest
    else references rest

theorem refers_iff_mem_references {text : List Char} {name : String} :
    Refers text name ↔ name ∈ references text := by
  induction text with
  | nil => simp [Refers, references]
  | cons c rest ih =>
    constructor
    · rintro ⟨before, after, split, identifier, stop⟩
      cases before with
      | nil =>
        obtain ⟨rfl, rfl⟩ := List.cons.inj split
        have filled : name.toList ≠ [] := by
          obtain ⟨c, rest, letters, _⟩ := letters_of_isIdentifier identifier
          rw [letters]
          exact List.cons_ne_nil c rest
        simp [references, referenced_append identifier stop, filled]
      | cons d before =>
        obtain ⟨rfl, behind⟩ := List.cons.inj split
        have inside := ih.mp ⟨before, after, behind, identifier, stop⟩
        unfold references
        split <;> simp [inside]
    · intro member
      unfold references at member
      split at member
      · rename_i reference
        obtain ⟨rfl, found⟩ := reference
        rcases List.mem_cons.mp member with rfl | member
        · exact refers_referenced found
        · exact (ih.mpr member).append_left ['@']
      · exact (ih.mpr member).append_left [c]

theorem replacement_congr {vars others : Variables} {name : List Char}
    (same : Fields.value? vars (String.ofList name) = Fields.value? others (String.ofList name)) :
    replacement vars name = replacement others name := by
  rw [replacement, replacement, same]

theorem substituteFrom_congr {vars others : Variables} (skip : Nat) (text : List Char)
    (same : ∀ name, Refers (text.drop skip) name →
      Fields.value? vars name = Fields.value? others name) :
    substituteFrom vars skip text = substituteFrom others skip text := by
  induction text generalizing skip with
  | nil => simp [substituteFrom]
  | cons c rest ih =>
    cases skip with
    | succ skip =>
      rw [substituteFrom, substituteFrom]
      exact ih skip same
    | zero =>
      -- what is referred to behind the first characters is referred to in the whole text
      have behind (count : Nat) : substituteFrom vars count rest = substituteFrom others count rest := by
        apply ih
        intro name refers
        apply same
        exact (refers.of_drop).append_left [c]
      rw [substituteFrom, substituteFrom, behind, behind]
      split
      · rename_i reference
        obtain ⟨rfl, found⟩ := reference
        rw [replacement_congr (same _ (refers_referenced found))]
      · rfl

/-- Substitution only looks at the variables that the text refers to. -/
theorem substitute_congr {vars others : Variables} {text : String}
    (same : ∀ name, Refers text.toList name → Fields.value? vars name = Fields.value? others name) :
    vars.substitute text = others.substitute text := by
  rw [substitute, substitute, substituteFrom_congr 0 text.toList same]

theorem setAll_nil (vars : Variables) : vars.setAll [] = .ok vars := rfl

theorem setAll_cons (vars : Variables) (name value : String) (rest : List (String × String)) :
    vars.setAll ((name, value) :: rest) =
      if isIdentifier name then setAll (Fields.put vars name value) rest
      else .error (.variableName name) := by
  cases valid : isIdentifier name <;> simp [setAll, override, set, valid]

theorem isIdentifier_of_setAll {vars later : Variables} {pairs : List (String × String)}
    (h : vars.setAll pairs = .ok later) : ∀ pair ∈ pairs, isIdentifier pair.1 = true := by
  induction pairs generalizing vars with
  | nil => simp
  | cons pair rest ih =>
    obtain ⟨name, value⟩ := pair
    rw [setAll_cons] at h
    split at h
    · rename_i valid
      intro other member
      rcases List.mem_cons.mp member with rfl | member
      · exact valid
      · exact ih h other member
    · cases h

theorem setAll_of_identifiers (vars : Variables) {pairs : List (String × String)}
    (valid : ∀ pair ∈ pairs, isIdentifier pair.1 = true) :
    vars.setAll pairs = .ok (Fields.putAll vars pairs) := by
  induction pairs generalizing vars with
  | nil => rfl
  | cons pair rest ih =>
    obtain ⟨name, value⟩ := pair
    have first : isIdentifier name = true := valid (name, value) List.mem_cons_self
    rw [setAll_cons, if_pos first]
    apply ih
    intro other member
    exact valid other (List.mem_cons_of_mem _ member)

def valuesBut (omitted : String) (vars : Variables) (name : String) : Option String :=
  if name = omitted then none else Fields.value? vars name

theorem valuesBut_apply {omitted name : String} {vars others : Variables} (ne : name ≠ omitted)
    (same : valuesBut omitted vars = valuesBut omitted others) :
    Fields.value? vars name = Fields.value? others name := by
  have here := congrFun same name
  simpa [valuesBut, ne] using here

theorem valuesBut_put_self (omitted value : String) (vars : Variables) :
    valuesBut omitted (Fields.put vars omitted value) = valuesBut omitted vars := by
  funext name
  unfold valuesBut
  split
  · rfl
  · rename_i ne
    exact Fields.value?_put_of_ne vars value ne

theorem valuesBut_put {omitted : String} {vars others : Variables}
    (same : valuesBut omitted vars = valuesBut omitted others) (name value : String) :
    valuesBut omitted (Fields.put vars name value) = valuesBut omitted (Fields.put others name value) := by
  funext asked
  unfold valuesBut
  split
  · rfl
  · rename_i ne
    by_cases given : asked = name
    · subst given
      rw [Fields.value?_put_self, Fields.value?_put_self]
    · rw [Fields.value?_put_of_ne vars value given, Fields.value?_put_of_ne others value given]
      exact valuesBut_apply ne same

/-- Leaving out the values for one valid name changes neither the other variables nor the error. -/
theorem setAll_filter {omitted : String} (valid : isIdentifier omitted = true)
    {vars others : Variables} (same : valuesBut omitted vars = valuesBut omitted others)
    (pairs : List (String × String)) :
    (vars.setAll pairs).map (valuesBut omitted) =
      (others.setAll (pairs.filter fun pair => pair.1 != omitted)).map (valuesBut omitted) := by
  induction pairs generalizing vars others with
  | nil => simp [setAll_nil, Except.map, same]
  | cons pair rest ih =>
    obtain ⟨name, value⟩ := pair
    by_cases left : name = omitted
    · subst left
      rw [setAll_cons, if_pos valid, ih ((valuesBut_put_self name value vars).trans same)]
      simp
    · rw [List.filter_cons_of_pos (by simpa using left), setAll_cons, setAll_cons]
      split
      · exact ih (valuesBut_put same name value)
      · rfl

end Variables

end UiMarkup
