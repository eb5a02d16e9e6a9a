import UiMarkup.Proofs.Component.Building
import UiMarkup.Proofs.Markup.Completeness

namespace UiMarkup

namespace Text

theorem toLower_eq_self_iff {c : Char} : c.toLower = c ↔ c.isUpper = false := by
  by_cases upper : c.val ≥ 'A'.val ∧ c.val ≤ 'Z'.val
  · have moved : c.toLower.val = c.val + ('a'.val - 'A'.val) := congrArg Char.val (dif_pos upper)
    have capital : c.isUpper = true := decide_eq_true upper
    rw [Char.ext_iff, moved, capital]
    simp
  · have same : c.toLower = c := dif_neg upper
    have small : c.isUpper = false := decide_eq_false upper
    simp only [same, small]

theorem capitalForm_toLower (c : Char) : capitalForm c.toLower = capitalForm c :=
  Reader.toLower_class (by decide +kernel) c

end Text

namespace Assembly

def isJoint (c : Char) : Bool :=
  c == '-' || c == '_'

theorem isJoint_toLower (c : Char) : isJoint c.toLower = isJoint c :=
  Reader.toLower_class (by decide +kernel) c

/-- A name without its joints and with a capital behind each of them; `first` where the name goes on
with the start of a part. -/
def titled : (first : Bool) → List Char → List Char
  | _, [] => []
  | first, c :: rest =>
    if isJoint c then titled true rest
    else (if first then Text.capitalForm c else [c]) ++ titled false rest

def joined (parts : List (List Char)) : List Char :=
  (parts.filter fun part => !part.isEmpty).flatMap Text.capitalized

theorem joined_cons (part : List Char) (parts : List (List Char)) :
    joined (part :: parts) = Text.capitalized part ++ joined parts := by
  cases part with
  | nil => rfl
  | cons c part => rfl

theorem titled_eq (text : List Char) :
    ∃ part parts, Text.splitWhere isJoint text = part :: parts ∧
      titled true text = joined (part :: parts) ∧ titled false text = part ++ joined parts := by
  induction text with
  | nil => exact ⟨[], [], rfl, rfl, rfl⟩
  | cons c rest ih =>
    obtain ⟨part, parts, split, atStart, inside⟩ := ih
    by_cases joint : isJoint c = true
    · refine ⟨[], part :: parts, ?_, ?_, ?_⟩
      · rw [Text.splitWhere_cons_cut joint, split]
      · rw [titled, if_pos joint, atStart, joined_cons []]
        rfl
      · rw [titled, if_pos joint, atStart, List.nil_append]
    · refine ⟨c :: part, parts, ?_, ?_, ?_⟩
      · exact Text.splitWhere_cons_keep (by simpa using joint) split
      · rw [titled, if_neg joint, if_pos rfl, inside, joined_cons, Text.capitalized, List.append_assoc]
      · rw [titled, if_neg joint, if_neg (by decide), inside]
        rfl

theorem propertyName_eq (name : String) : propertyName name = String.ofList (titled true name.toList) := by
  obtain ⟨part, parts, split, atStart, _⟩ := titled_eq name.toList
  rw [atStart, ← split]
  rfl

/-- Each ASCII capital stands behind a joint, but for one at the start. -/
def CapitalsLead (name : List Char) : Prop :=
  name.IsChain fun before c => c.isUpper = true → isJoint before = true

instance (name : List Char) : Decidable (CapitalsLead name) :=
  inferInstanceAs (Decidable (name.IsChain fun before c => c.isUpper = true → isJoint before = true))

theorem capitalsLead_cons_of_joint {c : Char} (joint : isJoint c = true) (rest : List Char) :
    CapitalsLead (c :: rest) ↔ CapitalsLead rest := by
  rw [CapitalsLead, List.isChain_cons]
  constructor
  · exact And.right
  · intro lead
    exact ⟨fun _ _ _ => joint, lead⟩

theorem capitalsLead_cons_of_part {c : Char} (part : isJoint c = false) (rest : List Char) :
    CapitalsLead (c :: rest) ↔ (∀ d ∈ rest.head?, d.isUpper = false) ∧ CapitalsLead rest := by
  rw [CapitalsLead, List.isChain_cons, CapitalsLead]
  simp only [part, Bool.false_eq_true, imp_false, Bool.not_eq_true]

theorem titled_lowered_iff (text : List Char) :
    (titled true (Text.lowered text) = titled true text ↔ CapitalsLead text) ∧
    (titled false (Text.lowered text) = titled false text ↔
      (∀ c ∈ text.head?, c.isUpper = false) ∧ CapitalsLead text) := by
  induction text with
  | nil => simp [Text.lowered, CapitalsLead]
  | cons c rest ih =>
    have small : Text.lowered (c :: rest) = c.toLower :: Text.lowered rest := rfl
    have head : (∀ d ∈ (c :: rest).head?, d.isUpper = false) ↔ c.isUpper = false := by simp
    rw [small, head, titled, titled, titled, titled, isJoint_toLower]
    by_cases joint : isJoint c = true
    · have notCapital : c.isUpper = false := by
        rcases (by simpa [isJoint] using joint : c = '-' ∨ c = '_') with rfl | rfl <;> rfl
      simp only [joint, ↓reduceIte, capitalsLead_cons_of_joint joint, notCapital, true_and]
      exact ⟨ih.1, ih.1⟩
    · have part : isJoint c = false := by simpa using joint
      simp only [part, Bool.false_eq_true, ↓reduceIte, capitalsLead_cons_of_part part,
        Text.capitalForm_toLower, List.append_cancel_left_eq, List.singleton_append, List.cons.injEq,
        Text.toLower_eq_self_iff]
      exact ⟨ih.2, and_congr_right fun _ => ih.2⟩

theorem propertyName_lower_eq_iff (name : String) :
    propertyName (Text.lower name) = propertyName name ↔ CapitalsLead name.toList := by
  rw [propertyName_eq, propertyName_eq, String.ofList_inj, Text.lower, String.toList_ofList]
  exact (titled_lowered_iff name.toList).1

def reservedNames : List String :=
  ["id", "style", "class", "type", "text", "src", "placeholder", "title", "tooltip", "disabled",
    "checked", "hidden", "maxlength"]

def Writes (vars : Variables) (origin : Origin) (given : Attribute) (key : String) : Prop :=
  ∀ node, ∃ value, applyAttribute vars origin node given = .ok (node.set key value)

section Writes

variable {vars : Variables} {origin : Origin} {given : Attribute}

theorem Writes.key_eq {key other : String} (h : Writes vars origin given key)
    (k : Writes vars origin given other) : key = other := by
  obtain ⟨value, here⟩ := h (Node.component "")
  obtain ⟨again, there⟩ := k (Node.component "")
  rw [here] at there
  have same := congrArg Node.properties (Except.ok.inj there)
  simp only [Node.set, Node.component, Fields.put, List.cons.injEq, Prod.mk.injEq] at same
  exact same.1.1

theorem applyPlain_of_free {name : String} (free : name ∉ reservedNames) (node : Node)
    (value : Option String) :
    ∃ written, applyPlain node name value = node.set (propertyName name) written := by
  unfold applyPlain
  simp only
  split
  all_goals try exact absurd (by decide) free
  exact ⟨_, rfl⟩

theorem writes_of_free (unowned : origin.ownsAttributes = false) (static : given.binding = false)
    (free : Text.lower given.name ∉ reservedNames) :
    Writes vars origin given (propertyName (Text.lower given.name)) := by
  intro node
  have notId : Text.lower given.name ≠ "id" := fun same => free (same ▸ by decide)
  have notStyle : Text.lower given.name ≠ "style" := fun same => free (same ▸ by decide)
  obtain ⟨written, applied⟩ := applyPlain_of_free free node (expanded vars given)
  refine ⟨written, ?_⟩
  simp only [applyAttribute, static, notId, notStyle, unowned, Bool.false_eq_true, ↓reduceIte, applied]

theorem writes_of_binding (bound : given.binding = true) :
    Writes vars origin given (propertyName given.name) := by
  intro node
  refine ⟨.expression ((expanded vars given).getD ""), ?_⟩
  simp only [applyAttribute, bound, ↓reduceIte]

theorem Writes.iff {key : String} (h : Writes vars origin given key) (other : String) :
    Writes vars origin given other ↔ other = key := by
  constructor
  · intro k
    exact k.key_eq h
  · intro same
    rw [same]
    exact h

end Writes

/-- A name that has no meaning of its own sets the property of its small letters as an attribute,
and that of its own letters as a binding. The two are the same property exactly if each ASCII
capital of the name is the first letter of a part. -/
theorem same_property_iff_capitals_lead {origin : Origin}
    (unowned : origin = .usual ∨ origin = .qualified ∨ origin = .named) {name : String}
    (free : Text.lower name ∉ reservedNames) (vars : Variables) (value bound : Option String) :
    (∀ key, Writes vars origin ⟨name, value, false⟩ key ↔ key = propertyName (Text.lower name)) ∧
    (∀ key, Writes vars origin ⟨name, bound, true⟩ key ↔ key = propertyName name) ∧
    (propertyName (Text.lower name) = propertyName name ↔ CapitalsLead name.toList) := by
  have takes : origin.ownsAttributes = false := by
    rcases unowned with rfl | rfl | rfl <;> rfl
  have static : Writes vars origin ⟨name, value, false⟩ (propertyName (Text.lower name)) :=
    writes_of_free takes rfl free
  have binding : Writes vars origin ⟨name, bound, true⟩ (propertyName name) :=
    writes_of_binding rfl
  exact ⟨static.iff, binding.iff, propertyName_lower_eq_iff name⟩

/-- Capitals behind a hyphen and at the start, and a letter outside ASCII whose capital form is
longer. -/
theorem same_property_iff_capitals_lead_parts :
    let name := "Max-Value_ßx"
    Text.lower name ∉ reservedNames ∧ CapitalsLead name.toList ∧
      propertyName name = "MaxValueSSx" ∧
      Writes [] .usual ⟨name, some "4", false⟩ "MaxValueSSx" ∧
      Writes [] .usual ⟨name, some "n", true⟩ "MaxValueSSx" := by
  intro name
  have free : Text.lower name ∉ reservedNames := by decide +kernel
  have lead : CapitalsLead name.toList := by decide +kernel
  have isName : propertyName name = "MaxValueSSx" := by decide +kernel
  obtain ⟨static, binding, same⟩ :=
    @same_property_iff_capitals_lead .usual (.inl rfl) name free [] (some "4") (some "n")
  refine ⟨free, lead, isName, (static _).mpr ?_, (binding _).mpr isName.symm⟩
  rw [same.mpr lead, isName]

/-- A capital inside a part is kept by a binding and lost by an attribute. -/
theorem capital_inside_part :
    let surroundings : Surroundings := ⟨.empty, fun _ => .directory, none⟩
    let element (binding : Bool) : Element := ⟨"div", ⟨1, 1⟩, [⟨"flexWeight", some "2", binding⟩], []⟩
    ((build surroundings .empty (element false)).result.toOption.map Node.render =
        some "Group \x7b Flexweight: 2; \x7d") ∧
      ((build surroundings .empty (element true)).result.toOption.map Node.render =
        some "Group \x7b FlexWeight: 2; \x7d") ∧
      Text.lower "flexWeight" ∉ reservedNames := by
  decide +kernel

end Assembly

end UiMarkup
