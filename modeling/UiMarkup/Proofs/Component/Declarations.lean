import Mathlib.Data.List.Forall2
import UiMarkup.Component.Style
import UiMarkup.Proofs.Markup.Outcome

namespace UiMarkup

theorem mem_of_lookup {α β : Type} [BEq α] [LawfulBEq α] {pairs : List (α × β)} {key : α} {value : β}
    (found : pairs.lookup key = some value) : (key, value) ∈ pairs := by
  obtain ⟨before, behind, split, _⟩ := List.lookup_eq_some_iff.mp found
  rw [split]
  exact List.mem_append_right _ List.mem_cons_self

section Lists

variable {ε α β : Type} {f : α → Except ε β} {inputs : List α} {outputs : List β}

theorem forall₂_of_mapM (h : inputs.mapM f = .ok outputs) :
    List.Forall₂ (fun input output => f input = .ok output) inputs outputs := by
  induction inputs generalizing outputs with
  | nil =>
    cases h
    exact .nil
  | cons input rest ih =>
    rw [List.mapM_cons] at h
    obtain ⟨first, read, h⟩ := ok_of_bind h
    obtain ⟨others, more, done⟩ := ok_of_bind h
    cases done
    exact .cons read (ih more)

theorem mapM_of_forall₂ (h : List.Forall₂ (fun input output => f input = .ok output) inputs outputs) :
    inputs.mapM f = .ok outputs := by
  induction h with
  | nil => rfl
  | cons first rest ih =>
    rw [List.mapM_cons, first, ih]
    rfl

theorem exists_of_forall₂ {related : α → β → Prop} (each : List.Forall₂ related inputs outputs) :
    ∀ input ∈ inputs, ∃ output, related input output := by
  induction each with
  | nil => simp
  | cons first rest ih => exact List.forall_mem_cons.mpr ⟨⟨_, first⟩, ih⟩

theorem exists_error_of_mapM {e : ε} (h : inputs.mapM f = .error e) :
    ∃ input ∈ inputs, f input = .error e := by
  induction inputs with
  | nil => cases h
  | cons input rest ih =>
    rw [List.mapM_cons] at h
    rcases error_of_bind h with failed | ⟨first, _, h⟩
    · exact ⟨input, List.mem_cons_self, failed⟩
    · rcases error_of_bind h with failed | ⟨others, _, done⟩
      · obtain ⟨later, member, failed⟩ := ih failed
        exact ⟨later, List.mem_cons_of_mem _ member, failed⟩
      · cases done

end Lists

namespace Style

inductive Kind.Gives : Kind → Value → Prop
  | color {given color : String} (read : Color.read given = .ok color) : Gives .color (.color color)
  | length {text : List Char} {x : Float} (read : Decimal.readFinite? text = some x) :
      Gives .length (.number x)
  | box {top right bottom left : Value} (isTop : Gives .length top) (isRight : Gives .length right)
      (isBottom : Gives .length bottom) (isLeft : Gives .length left) :
      Gives .box (sides top right bottom left)
  | weight (heavy : Bool) : Gives .weight (.flag heavy)
  | switch {words : List (String × Bool)} {word : String × Bool} (member : word ∈ words) :
      Gives (.switch words) (.flag word.2)
  | choice {words : List (String × String)} {word : String × String} (member : word ∈ words) :
      Gives (.choice words) (.expression word.2)
  | name (text : String) : Gives .name (.text text)
  | factor {text : List Char} {x : Float} (read : Decimal.readFinite? text = some x) :
      Gives .factor (.number x)

theorem gives_of_readLength {text : List Char} {value : Value} (h : readLength text = .ok value) :
    Kind.length.Gives value := by
  unfold readLength at h
  simp only at h
  split at h
  · rename_i x read
    cases h
    exact .length read
  · cases h

theorem gives_of_lengths {texts : List (List Char)} {lengths : List Value}
    (h : texts.mapM readLength = .ok lengths) : ∀ length ∈ lengths, Kind.length.Gives length := by
  have read := forall₂_of_mapM h
  clear h
  induction read with
  | nil => simp
  | cons first rest ih => exact List.forall_mem_cons.mpr ⟨gives_of_readLength first, ih⟩

theorem gives_of_boxOf {lengths : List Value} {value : Value} (h : boxOf lengths = .ok value)
    (isLengths : ∀ length ∈ lengths, Kind.length.Gives length) : Kind.box.Gives value := by
  unfold boxOf at h
  split at h
  all_goals cases h
  all_goals
    simp only [List.forall_mem_cons, List.not_mem_nil, false_implies, implies_true, and_true] at isLengths
  · exact .box isLengths isLengths isLengths isLengths
  · obtain ⟨upright, across⟩ := isLengths
    exact .box upright across upright across
  · obtain ⟨top, across, bottom⟩ := isLengths
    exact .box top across bottom across
  · obtain ⟨top, right, bottom, left⟩ := isLengths
    exact .box top right bottom left

theorem gives_of_readWeight {text : String} {value : Value} (h : readWeight text = .ok value) :
    Kind.weight.Gives value := by
  unfold readWeight at h
  simp only at h
  split at h
  · cases h
    exact .weight true
  · split at h
    · cases h
      exact .weight false
    · split at h
      · cases h
        exact .weight _
      · cases h

theorem gives_of_readFactor {text : String} {value : Value} (h : readFactor text = .ok value) :
    Kind.factor.Gives value := by
  unfold readFactor at h
  simp only at h
  split at h
  · rename_i x read
    cases h
    exact .factor read
  · cases h

theorem readWord_ok {α : Type} {words : List (String × α)} {make : α → Value} {given : String}
    {value : Value} (h : readWord words make given = .ok value) :
    ∃ word ∈ words, value = make word.2 := by
  unfold readWord at h
  split at h
  · rename_i word meaning found
    cases h
    exact ⟨_, List.mem_of_find?_eq_some found, rfl⟩
  · cases h

theorem gives_of_read {kind : Kind} {given : String} {value : Value} (h : kind.read given = .ok value) :
    kind.Gives value := by
  cases kind with
  | color =>
    rw [Kind.read] at h
    cases read : Color.read given with
    | error fault => simp [read] at h
    | ok color =>
      simp only [read, Except.map_ok] at h
      cases h
      exact .color read
  | length => exact gives_of_readLength h
  | box =>
    obtain ⟨lengths, read, h⟩ := ok_of_bind h
    exact gives_of_boxOf h (gives_of_lengths read)
  | weight => exact gives_of_readWeight h
  | switch words =>
    obtain ⟨word, member, rfl⟩ := readWord_ok h
    exact .switch member
  | choice words =>
    obtain ⟨word, member, rfl⟩ := readWord_ok h
    exact .choice member
  | name =>
    cases h
    exact .name _
  | factor => exact gives_of_readFactor h

theorem keys_assign (target : Target) (value : Value) :
    Fields.keys (target.assign value) = [target.property] := by
  unfold Target.assign
  split <;> rfl

theorem readDeclaration_ok {declaration : List Char} {added : Properties}
    (h : readDeclaration declaration = .ok added) :
    ∃ entry ∈ targets, ∃ value, entry.2.kind.Gives value ∧ added = entry.2.assign value := by
  unfold readDeclaration at h
  split at h
  · cases h
  · simp only at h
    split at h
    · cases h
    · unfold translate at h
      split at h
      · cases h
      · rename_i target found
        split at h
        · rename_i value read
          cases h
          exact ⟨_, mem_of_lookup found, value, gives_of_read read, rfl⟩
        · cases h

/-- What every assignment preserves is preserved by a run of declarations. -/
theorem readDeclarations_forall (holds : Properties → Prop)
    (step : ∀ properties, holds properties → ∀ entry ∈ targets, ∀ value, entry.2.kind.Gives value →
      holds (properties.merge (entry.2.assign value)))
    {segments : List (List Char)} {start properties : Properties} (isStart : holds start)
    (h : readDeclarations start segments = .ok properties) : holds properties := by
  induction segments generalizing start with
  | nil =>
    cases h
    exact isStart
  | cons segment rest ih =>
    unfold readDeclarations at h
    simp only at h
    split at h
    · exact ih isStart h
    · obtain ⟨added, read, h⟩ := ok_of_bind h
      obtain ⟨entry, among, value, gives, rfl⟩ := readDeclaration_ok read
      exact ih (step start isStart entry among value gives) h

end Style

end UiMarkup
