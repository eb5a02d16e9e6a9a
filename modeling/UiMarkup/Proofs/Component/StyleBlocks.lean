import UiMarkup.Component.Node
import UiMarkup.Proofs.Component.Declarations
import UiMarkup.Proofs.Component.Merging
import UiMarkup.Proofs.Text.Spacing

namespace UiMarkup

namespace Style

def groups : List String :=
  ["Anchor", "Padding", "Style"]

/-- What a style may set: an object of plain values in a group, and a plain value elsewhere. -/
inductive Shaped : String × Value → Prop
  | group {property : String} {fields : List (String × Value)} (isGroup : property ∈ groups)
      (names : (Fields.keys fields).Nodup) (plain : ∀ field ∈ fields, field.2.isObject = false) :
      Shaped (property, .object fields)
  | plain {property : String} {value : Value} (other : property ∉ groups)
      (isPlain : value.isObject = false) : Shaped (property, value)

theorem Shaped.distinct {property : String} {value : Value} (shaped : Shaped (property, value)) :
    value.Distinct := by
  cases shaped with
  | group isGroup names plain => exact .object names fun field member => .plain (plain field member)
  | plain other isPlain => exact .plain isPlain

theorem Shaped.compatible {property : String} {left right : Value} (isLeft : Shaped (property, left))
    (isRight : Shaped (property, right)) : Value.Compatible left right := by
  cases isLeft with
  | group isGroup _ plainLeft =>
    cases isRight with
    | group _ _ plainRight =>
      apply Value.Compatible.object
      intro key a b isA isB
      exact .plain (plainLeft _ isA) (plainRight _ isB)
    | plain other _ => exact absurd isGroup other
  | plain other plainLeft =>
    cases isRight with
    | group isGroup _ _ => exact absurd isGroup other
    | plain _ plainRight => exact .plain plainLeft plainRight

theorem Shaped.onto {property : String} {value : Value} (shaped : Shaped (property, value))
    {present : Option Value} (isPresent : ∀ old, present = some old → Shaped (property, old)) :
    Shaped (property, value.onto present) := by
  cases shaped with
  | plain other isPlain =>
    rw [Value.onto_of_plain isPlain]
    exact .plain other isPlain
  | @group _ fields isGroup names plain =>
    cases present with
    | none =>
      rw [Value.onto_none]
      exact .group isGroup names plain
    | some old =>
      cases isPresent old rfl with
      | plain other _ => exact absurd isGroup other
      | group _ oldNames oldPlain =>
        rw [Value.onto_object]
        apply Shaped.group isGroup (Value.nodup_keys_mergeFields oldNames)
        apply Value.forall_mem_mergeFields oldPlain
        intro field member _ _
        rw [Value.onto_of_plain (plain field member)]
        exact plain field member

structure Styled (properties : Properties) : Prop where
  names : (Fields.keys properties).Nodup
  shaped : ∀ field ∈ properties, Shaped field

theorem styled_nil : Styled [] := by
  constructor
  · exact List.nodup_nil
  · simp

theorem styled_singleton {field : String × Value} (shaped : Shaped field) : Styled [field] := by
  constructor
  · exact List.nodup_singleton _
  · simpa using shaped

theorem Styled.distinct {properties : Properties} (styled : Styled properties) :
    (Value.object properties).Distinct := by
  apply Value.Distinct.object styled.names
  intro field member
  exact (styled.shaped field member).distinct

theorem Styled.compatible {left right : Properties} (isLeft : Styled left) (isRight : Styled right) :
    Value.Compatible (.object left) (.object right) := by
  apply Value.Compatible.object
  intro key a b isA isB
  exact (isLeft.shaped _ isA).compatible (isRight.shaped _ isB)

theorem Styled.merge {target incoming : Properties} (isTarget : Styled target)
    (isIncoming : Styled incoming) : Styled (target.merge incoming) := by
  constructor
  · exact Value.nodup_keys_mergeFields isTarget.names
  · apply Value.forall_mem_mergeFields isTarget.shaped
    intro field member present isPresent
    exact (isIncoming.shaped field member).onto isPresent

theorem Styled.merge_merge {first second : Properties} (isFirst : Styled first) (isSecond : Styled second)
    (target : Properties) : (target.merge first).merge second = target.merge (first.merge second) :=
  Properties.merge_merge isFirst.distinct isSecond.distinct (isFirst.compatible isSecond) target

section Targets

def Kind.isBox : Kind → Bool
  | box => true
  | _ => false

def Target.isShaped (target : Target) : Bool :=
  match target.field with
  | some _ => groups.contains target.property && !target.kind.isBox
  | none => groups.contains target.property == target.kind.isBox

theorem isShaped_of_mem_targets : ∀ entry ∈ targets, entry.2.isShaped = true :=
  List.all_eq_true.mp (by decide)

theorem Kind.Gives.plain {kind : Kind} {value : Value} (gives : kind.Gives value)
    (single : kind.isBox = false) : value.isObject = false := by
  cases gives with
  | box isTop isRight isBottom isLeft => cases single
  | _ => rfl

theorem Kind.Gives.shaped {kind : Kind} {value : Value} (gives : kind.Gives value)
    (isBox : kind.isBox = true) {property : String} (isGroup : property ∈ groups) :
    Shaped (property, value) := by
  cases gives with
  | box isTop isRight isBottom isLeft =>
    apply Shaped.group isGroup
    · simp [Fields.keys]
    · simp [isTop.plain rfl, isRight.plain rfl, isBottom.plain rfl, isLeft.plain rfl]
  | _ => cases isBox

theorem styled_assign {target : Target} {value : Value} (isShaped : target.isShaped = true)
    (gives : target.kind.Gives value) : Styled (target.assign value) := by
  unfold Target.isShaped at isShaped
  unfold Target.assign
  split at isShaped
  · rename_i field isField
    rw [isField]
    simp only [Bool.and_eq_true, List.contains_iff_mem, Bool.not_eq_true'] at isShaped
    apply styled_singleton
    apply Shaped.group isShaped.1
    · exact List.nodup_singleton _
    · simpa using gives.plain isShaped.2
  · rename_i isField
    rw [isField]
    apply styled_singleton
    rw [beq_iff_eq] at isShaped
    by_cases isGroup : target.property ∈ groups
    · apply gives.shaped _ isGroup
      simpa [isGroup] using isShaped.symm
    · apply Shaped.plain isGroup
      apply gives.plain
      simpa [isGroup] using isShaped.symm

theorem styled_of_readDeclaration {declaration : List Char} {added : Properties}
    (h : readDeclaration declaration = .ok added) : Styled added := by
  obtain ⟨entry, among, value, gives, rfl⟩ := readDeclaration_ok h
  exact styled_assign (isShaped_of_mem_targets entry among) gives

theorem styled_parse {block : String} {properties : Properties} (h : parse block = .ok properties) :
    Styled properties := by
  refine readDeclarations_forall Styled ?_ styled_nil h
  intro properties styled entry among value gives
  exact styled.merge (styled_assign (isShaped_of_mem_targets entry among) gives)

end Targets

section Declarations

theorem readDeclarations_append (properties : Properties) (left right : List (List Char)) :
    readDeclarations properties (left ++ right) =
      readDeclarations properties left >>= fun later => readDeclarations later right := by
  induction left generalizing properties with
  | nil => rfl
  | cons segment left ih =>
    rw [List.cons_append, readDeclarations, readDeclarations]
    split
    · exact ih properties
    · cases readDeclaration (Text.trim segment) with
      | error e => rfl
      | ok added => exact ih (properties.merge added)

/-- What declarations set onto other properties is what they set by themselves, merged into those. -/
theorem readDeclarations_merge {set : Properties} (styled : Styled set) (target : Properties)
    (segments : List (List Char)) :
    readDeclarations (target.merge set) segments = (readDeclarations set segments).map target.merge := by
  induction segments generalizing set with
  | nil => rfl
  | cons segment rest ih =>
    rw [readDeclarations, readDeclarations]
    split
    · exact ih styled
    · cases read : readDeclaration (Text.trim segment) with
      | error e => rfl
      | ok added =>
        have isAdded := styled_of_readDeclaration read
        simp only [ok_bind]
        rw [styled.merge_merge isAdded]
        exact ih (styled.merge isAdded)

theorem parse_append (a b : String) :
    parse (a ++ ";" ++ b) = (do
      let first ← parse a
      let second ← parse b
      return first.merge second) := by
  have segments : Text.splitWhere (· == ';') (a ++ ";" ++ b).toList =
      Text.splitWhere (· == ';') a.toList ++ Text.splitWhere (· == ';') b.toList := by
    have written : (a ++ ";" ++ b).toList = a.toList ++ ';' :: b.toList := by simp
    rw [written]
    exact Text.splitWhere_append_cut (by decide) _ _
  have onto (first : Properties) : readDeclarations first (Text.splitWhere (· == ';') b.toList) =
      (parse b).map first.merge := by
    have merged := readDeclarations_merge styled_nil first (Text.splitWhere (· == ';') b.toList)
    rwa [Properties.merge_nil] at merged
  rw [parse, segments, readDeclarations_append, ← parse]
  cases parse a with
  | error e => rfl
  | ok first =>
    rw [ok_bind, ok_bind, onto]
    cases parse b <;> rfl

theorem parse_twice (block : String) : parse (block ++ ";" ++ block) = parse block := by
  rw [parse_append]
  cases read : parse block with
  | error e => rfl
  | ok properties =>
    have styled := styled_parse read
    show Except.ok (properties.merge properties) = _
    rw [Properties.merge_self styled.distinct]

end Declarations

/-- Two blocks in one style do to a node what they do in turn, whatever it holds already, and fail
where the first of them that is at fault fails. A block that is written twice sets what it sets
once. -/
theorem blocks_in_turn (node : Node) (a b : String) :
    (parse (a ++ ";" ++ b)).map node.setAll = (do
      let first ← parse a
      let second ← parse b
      return (node.setAll first).setAll second) ∧
    parse (a ++ ";" ++ a) = parse a := by
  constructor
  · rw [parse_append]
    cases isFirst : parse a with
    | error e => rfl
    | ok first =>
      cases isSecond : parse b with
      | error e => rfl
      | ok second =>
        have merged := (styled_parse isFirst).merge_merge (styled_parse isSecond) node.properties
        have same : node.setAll (first.merge second) = (node.setAll first).setAll second := by
          simp only [Node.setAll, merged]
        show Except.ok (node.setAll (first.merge second)) = _
        rw [same]
        rfl
  · exact parse_twice a

end Style

end UiMarkup
