import Mathlib.Data.List.Chain
import UiMarkup.Proofs.Script.Variables

namespace UiMarkup

theorem Refers.mem_at {text : List Char} {name : String} (refers : Refers text name) : '@' ∈ text := by
  obtain ⟨before, after, rfl, _⟩ := refers
  simp

theorem Refers.exists_infix {text : List Char} {name : String} (refers : Refers text name) :
    ∃ c, ['@', c] <:+: text ∧ isIdentifierStart c = true := by
  obtain ⟨before, after, rfl, identifier, _⟩ := refers
  obtain ⟨c, rest, letters, start, _⟩ := letters_of_isIdentifier identifier
  refine ⟨c, ⟨before, rest ++ after, ?_⟩, start⟩
  simp [letters]

namespace Variables

section Cuts

variable {rest : List Char}

theorem referenced_isPrefix (text : List Char) : referenced text <+: text := by
  cases text with
  | nil => exact List.nil_prefix
  | cons c text =>
    cases start : isIdentifierStart c with
    | false =>
      rw [referenced_of_not_start start]
      exact List.nil_prefix
    | true =>
      rw [referenced_of_start start, List.prefix_cons_inj]
      exact List.takeWhile_prefix _

theorem referenced_of_stops (stop : Stops isIdentifierPart rest) : referenced rest = [] := by
  cases rest with
  | nil => rfl
  | cons c rest =>
    apply referenced_of_not_start
    have outside := stop c rfl
    by_contra start
    rw [isIdentifierPart_of_isIdentifierStart (by simpa using start)] at outside
    cases outside

theorem referenced_append_of_stops (text : List Char) (stop : Stops isIdentifierPart rest) :
    referenced (text ++ rest) = referenced text := by
  cases text with
  | nil => exact referenced_of_stops stop
  | cons c text =>
    cases start : isIdentifierStart c with
    | false => rw [List.cons_append, referenced_of_not_start start, referenced_of_not_start start]
    | true =>
      rw [List.cons_append, referenced_of_start start, referenced_of_start start,
        stop.takeWhile_append_left]

/-- References do not reach over a cut in front of a character that cannot belong to a name. -/
theorem substituteFrom_append (vars : Variables) (text : List Char)
    (stop : Stops isIdentifierPart rest) {skip : Nat} (within : skip ≤ text.length) :
    substituteFrom vars skip (text ++ rest) =
      substituteFrom vars skip text ++ substituteFrom vars 0 rest := by
  induction text generalizing skip with
  | nil =>
    obtain rfl : skip = 0 := Nat.le_zero.mp within
    rfl
  | cons c text ih =>
    cases skip with
    | succ skip => exact ih (Nat.le_of_succ_le_succ within)
    | zero =>
      have name := (referenced_isPrefix text).length_le
      rw [List.cons_append, substituteFrom, substituteFrom, referenced_append_of_stops text stop, ih name,
        ih (Nat.zero_le _)]
      split
      · rw [List.append_assoc]
      · rfl

end Cuts

theorem substituteFrom_nil (skip : Nat) (text : List Char) :
    substituteFrom [] skip text = text.drop skip := by
  induction text generalizing skip with
  | nil => simp [substituteFrom]
  | cons c text ih =>
    cases skip with
    | succ skip => exact ih skip
    | zero =>
      rw [substituteFrom, ih, ih]
      split
      · rename_i reference
        have whole := List.prefix_iff_eq_append.mp (referenced_isPrefix text)
        show '@' :: (referenced text ++ text.drop (referenced text).length) = c :: text
        rw [whole, reference.1]
      · rfl

theorem substitute_of_unknown {vars : Variables} {text : String}
    (unknown : ∀ name, Refers text.toList name → Fields.value? vars name = none) :
    vars.substitute text = text := by
  have same : vars.substitute text = substitute [] text := substitute_congr unknown
  rw [same, substitute, substituteFrom_nil, List.drop_zero, String.ofList_toList]

theorem substitute_of_notMem (vars : Variables) {text : String} (none : '@' ∉ text.toList) :
    vars.substitute text = text := by
  apply substitute_of_unknown
  intro name refers
  exact absurd refers.mem_at none

theorem substitute_reference (vars : Variables) {name after : String} (before : String)
    (identifier : isIdentifier name = true) (stop : Stops isIdentifierPart after.toList) :
    vars.substitute (before ++ "@" ++ name ++ after) =
      vars.substitute before ++ (Fields.value? vars name).getD ("@" ++ name) ++ vars.substitute after := by
  have written : (before ++ "@" ++ name ++ after).toList =
      before.toList ++ '@' :: (name.toList ++ after.toList) := by simp
  have cut : Stops isIdentifierPart ('@' :: (name.toList ++ after.toList)) := Stops.cons (by decide) _
  have found : referenced (name.toList ++ after.toList) ≠ [] := by
    obtain ⟨c, rest, letters, _⟩ := letters_of_isIdentifier identifier
    rw [referenced_append identifier stop, letters]
    exact List.cons_ne_nil _ _
  have replaced : String.ofList (replacement vars name.toList) =
      (Fields.value? vars name).getD ("@" ++ name) := by
    unfold replacement
    rw [String.ofList_toList]
    cases Fields.value? vars name with
    | none =>
      apply String.toList_injective
      simp
    | some value => exact String.ofList_toList
  rw [substitute, written, substituteFrom_append vars before.toList cut (Nat.zero_le _), substituteFrom,
    if_pos ⟨rfl, found⟩, referenced_append identifier stop, substituteFrom_eq vars name.toList.length,
    List.drop_left, String.ofList_append, String.ofList_append, replaced, ← String.append_assoc]
  rfl

theorem substitute_set {vars later : Variables} {name value : String}
    (given : vars.set name value = .ok later) : later.substitute ("@" ++ name) = value := by
  unfold set at given
  split at given
  · rename_i identifier
    cases given
    have ends : Stops isIdentifierPart "".toList := Stops.nil _
    have known := substitute_reference (Fields.put vars name value) "" identifier ends
    rw [Fields.value?_put_self] at known
    simpa [substitute, substituteFrom] using known
  · cases given

/-- Substitution replaces each reference on its own. The value of a variable is put in as it stands; a
reference to no variable is left, and so is a text without references, or any text if there are no
variables. Each name that can be given a value can be referred to. -/
theorem substitute_single_pass (vars : Variables) :
    (∀ before name after : String, isIdentifier name = true → Stops isIdentifierPart after.toList →
      vars.substitute (before ++ "@" ++ name ++ after) =
        vars.substitute before ++ (Fields.value? vars name).getD ("@" ++ name) ++
          vars.substitute after) ∧
    (∀ text : String, (∀ c, ['@', c] <:+: text.toList → isIdentifierStart c = false) →
      vars.substitute text = text) ∧
    (∀ text : String, vars = [] ∨ '@' ∉ text.toList → vars.substitute text = text) ∧
    ∀ name value later, vars.set name value = .ok later → later.substitute ("@" ++ name) = value := by
  refine ⟨?_, ?_, ?_, fun _ _ _ => substitute_set⟩
  · intro before name after identifier stop
    exact substitute_reference vars before identifier stop
  · intro text bare
    apply substitute_of_unknown
    intro name refers
    obtain ⟨c, here, start⟩ := refers.exists_infix
    rw [bare c here] at start
    cases start
  · intro text early
    rcases early with rfl | none
    · apply substitute_of_unknown
      intro name _
      rfl
    · exact substitute_of_notMem vars none

theorem substitute_single_pass_adjacent :
    let vars : Variables := [("a", "@ab"), ("ab", "x@")]
    vars.substitute ("@@ab" ++ "@" ++ "a" ++ "@abc@a-") =
        vars.substitute "@@ab" ++ "@ab" ++ vars.substitute "@abc@a-" ∧
      vars.substitute ("@@ab@a" ++ "@" ++ "abc" ++ "@a-") =
        vars.substitute "@@ab@a" ++ "@abc" ++ vars.substitute "@a-" ∧
      vars.substitute "@@ab@a@abc@a-" = "@x@@ab@abc@ab-" ∧
      vars.substitute "@ @1 @@ @-a" = "@ @1 @@ @-a" ∧ vars.substitute "ab" = "ab" ∧
      substitute [] "@ab" = "@ab" ∧ ∃ later, vars.set "_1" "@_1" = .ok later ∧
        later.substitute "@_1" = "@_1" := by
  intro vars
  obtain ⟨known, others, early, named⟩ := substitute_single_pass vars
  refine ⟨known "@@ab" "a" "@abc@a-" (by decide) (by decide), ?_, by decide +kernel, ?_, ?_, ?_, ?_⟩
  · exact known "@@ab@a" "abc" "@a-" (by decide) (by decide)
  · apply others
    have pairs : List.IsChain (fun c d => c = '@' → isIdentifierStart d = false)
        "@ @1 @@ @-a".toList := by decide
    rintro c ⟨front, rest, split⟩
    have shape : "@ @1 @@ @-a".toList = front ++ '@' :: c :: rest := by simp [← split]
    exact List.isChain_iff_forall_rel_of_append_cons_cons.mp pairs shape rfl
  · exact early "ab" (.inr (by decide))
  · exact (substitute_single_pass []).2.2.1 "@ab" (.inl rfl)
  · exact ⟨_, rfl, named "_1" "@_1" _ rfl⟩

end Variables

end UiMarkup
