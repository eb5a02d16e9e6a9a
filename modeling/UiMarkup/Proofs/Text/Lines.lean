import Mathlib.Data.List.Infix
import UiMarkup.Markup.Position
import UiMarkup.Proofs.Text.Spacing

namespace UiMarkup

namespace Text

def lines (text : List Char) : List (List Char) :=
  splitWhere (· == '\n') text

theorem lines_append_newline (left right : List Char) :
    lines (left ++ '\n' :: right) = lines left ++ lines right :=
  splitWhere_append_cut (by decide) left right

theorem lines_cons_of_ne {c : Char} (other : c ≠ '\n') (text : List Char) :
    ∃ first rest, lines text = first :: rest ∧ lines (c :: text) = (c :: first) :: rest := by
  have filled := splitWhere_ne_nil (· == '\n') text
  obtain ⟨first, rest, split⟩ := List.exists_cons_of_ne_nil filled
  have keep : (c == '\n') = false := beq_eq_false_iff_ne.mpr other
  exact ⟨first, rest, split, splitWhere_cons_keep keep split⟩

theorem length_lines (text : List Char) : (lines text).length = text.count '\n' + 1 := by
  induction text with
  | nil => rfl
  | cons c text ih =>
    by_cases newline : c = '\n'
    · subst newline
      have split := lines_append_newline [] text
      rw [List.nil_append] at split
      rw [split, List.length_append, ih, List.count_cons_self]
      have single : (lines []).length = 1 := rfl
      omega
    · obtain ⟨first, rest, split, behind⟩ := lines_cons_of_ne newline text
      rw [split] at ih
      rw [behind, List.count_cons_of_ne newline, ← ih]
      rfl

def firstLine (text : List Char) : List Char :=
  text.takeWhile (· != '\n')

theorem firstLine_append {text : List Char} (inLine : '\n' ∉ text) (rest : List Char) :
    firstLine (text ++ rest) = text ++ firstLine rest := by
  have kept : ∀ c ∈ text, (c != '\n') = true := by
    intro c member
    apply bne_iff_ne.mpr
    rintro rfl
    exact inLine member
  exact List.takeWhile_append_of_pos kept

theorem firstLine_cons {c : Char} (other : c ≠ '\n') (text : List Char) :
    firstLine (c :: text) = c :: firstLine text := by
  have inLine : '\n' ∉ [c] := by simpa using Ne.symm other
  exact firstLine_append inLine text

theorem exists_firstLine_append (text : List Char) :
    ∃ rest, text = firstLine text ++ rest ∧ '\n' ∉ firstLine text := by
  refine ⟨text.dropWhile (· != '\n'), List.takeWhile_append_dropWhile.symm, ?_⟩
  intro member
  have kept := List.mem_takeWhile_imp member
  contradiction

theorem head?_lines (text : List Char) : (lines text)[0]? = some (firstLine text) := by
  induction text with
  | nil => rfl
  | cons c text ih =>
    by_cases newline : c = '\n'
    · subst newline
      rfl
    · obtain ⟨first, rest, split, behind⟩ := lines_cons_of_ne newline text
      have isFirst : first = firstLine text := by simpa [split] using ih
      rw [behind, firstLine_cons newline, ← isFirst]
      rfl

theorem exists_around_line {text line : List Char} {i : Nat} (here : (lines text)[i]? = some line) :
    ∃ before after, text = before ++ (line ++ after) ∧ before.count '\n' = i ∧ '\n' ∉ line := by
  induction text generalizing i line with
  | nil =>
    cases i with
    | zero =>
      cases here
      exact ⟨[], [], rfl, rfl, List.not_mem_nil⟩
    | succ i => cases here
  | cons c text ih =>
    by_cases newline : c = '\n'
    · subst newline
      have split : lines ('\n' :: text) = [] :: lines text := lines_append_newline [] text
      rw [split] at here
      cases i with
      | zero =>
        cases here
        exact ⟨[], '\n' :: text, rfl, rfl, List.not_mem_nil⟩
      | succ i =>
        obtain ⟨before, after, shape, count, inLine⟩ := ih here
        have more : ('\n' :: before).count '\n' = i + 1 := by rw [List.count_cons_self, count]
        exact ⟨'\n' :: before, after, by rw [shape]; rfl, more, inLine⟩
    · obtain ⟨first, rest, split, behind⟩ := lines_cons_of_ne newline text
      rw [behind] at here
      cases i with
      | zero =>
        cases here
        have isFirst := head?_lines text
        rw [split, List.getElem?_cons_zero, Option.some.injEq] at isFirst
        obtain ⟨after, shape, inLine⟩ := exists_firstLine_append text
        rw [← isFirst] at shape inLine
        have whole : '\n' ∉ c :: first := by
          rw [List.mem_cons, not_or]
          exact ⟨Ne.symm newline, inLine⟩
        exact ⟨[], after, by rw [shape]; rfl, rfl, whole⟩
      | succ i =>
        have later : (lines text)[i + 1]? = some line := by rw [split]; exact here
        obtain ⟨before, after, shape, count, inLine⟩ := ih later
        have same : (c :: before).count '\n' = i + 1 := by rw [List.count_cons_of_ne newline, count]
        exact ⟨c :: before, after, by rw [shape]; rfl, same, inLine⟩

end Text

namespace Position

def Before (place other : Position) : Prop :=
  place.line < other.line ∨ (place.line = other.line ∧ place.column < other.column)

instance (place other : Position) : Decidable (place.Before other) :=
  inferInstanceAs (Decidable (_ ∨ _))

theorem Before.trans {first second third : Position} (h : first.Before second)
    (k : second.Before third) : first.Before third := by
  unfold Before at *
  omega

theorem before_after (place : Position) (c : Char) : place.Before (place.after c) := by
  unfold after
  split
  · exact .inl (Nat.lt_succ_self _)
  · exact .inr ⟨rfl, Nat.lt_succ_self _⟩

theorem before_advance (place : Position) {text : List Char} (filled : text ≠ []) :
    place.Before (place.advance text) := by
  induction text generalizing place with
  | nil => contradiction
  | cons c text ih =>
    have first := place.before_after c
    rw [advance_cons]
    by_cases last : text = []
    · subst last
      exact first
    · exact first.trans (ih (place.after c) last)

theorem Before.advance {place other : Position} (h : place.Before other) (text : List Char) :
    place.Before (other.advance text) := by
  by_cases none : text = []
  · subst none
    exact h
  · exact h.trans (other.before_advance none)

theorem line_advance (place : Position) (text : List Char) :
    (place.advance text).line = place.line + text.count '\n' := by
  induction text generalizing place with
  | nil => rfl
  | cons c text ih =>
    rw [advance_cons, ih]
    by_cases newline : c = '\n'
    · subst newline
      have next : (place.after '\n').line = place.line + 1 := rfl
      rw [next, List.count_cons_self]
      omega
    · have same : (place.after c).line = place.line := by rw [after, if_neg newline]
      rw [same, List.count_cons_of_ne newline]

/-- The line of a place starts with as many characters as the column says, and goes on with what
follows the place. -/
theorem exists_line (before after : List Char) :
    ∃ front, (Text.lines (before ++ after))[(start.advance before).line - 1]? =
        some (front ++ Text.firstLine after) ∧
      (start.advance before).column = front.length + 1 := by
  induction before using List.reverseRecOn generalizing after with
  | nil => exact ⟨[], Text.head?_lines after, rfl⟩
  | append_singleton before c ih =>
    rw [advance_append, List.append_assoc, List.singleton_append]
    by_cases newline : c = '\n'
    · -- the place is the start of a line: the lines before it are those of `before`
      subst newline
      have place : (start.advance before).advance ['\n'] = ⟨(start.advance before).line + 1, 1⟩ := rfl
      have count : (Text.lines before).length = (start.advance before).line := by
        rw [Text.length_lines, line_advance, Nat.add_comm]
        rfl
      refine ⟨[], ?_, by rw [place]; rfl⟩
      rw [place, Text.lines_append_newline, List.nil_append, Nat.add_sub_cancel, ← count,
        List.getElem?_append_right (Nat.le_refl _), Nat.sub_self, Text.head?_lines]
    · obtain ⟨front, here, column⟩ := ih (c :: after)
      have place : (start.advance before).advance [c] =
          ⟨(start.advance before).line, (start.advance before).column + 1⟩ := by
        rw [advance_cons, advance_nil, Position.after, if_neg newline]
      rw [Text.firstLine_cons newline] at here
      refine ⟨front ++ [c], ?_, ?_⟩
      · rw [place, here, List.append_assoc, List.singleton_append]
      · rw [place, column, List.length_append]
        rfl

theorem line_start_advance (text : List Char) : 1 ≤ (start.advance text).line := by
  rw [line_advance]
  exact Nat.le_add_right 1 _

theorem infix_line {before text after line : List Char} {i : Nat}
    (here : (Text.lines text)[i]? = some line) :
    ∃ whole, (Text.lines (before ++ (text ++ after)))[(start.advance before).line + i - 1]? = some whole ∧
      line <:+: whole := by
  obtain ⟨above, below, shape, count, inLine⟩ := Text.exists_around_line here
  obtain ⟨front, found, _⟩ := exists_line (before ++ above) (line ++ (below ++ after))
  have number : (start.advance (before ++ above)).line = (start.advance before).line + i := by
    rw [advance_append, line_advance _ above, count]
  have source : before ++ (text ++ after) = before ++ above ++ (line ++ (below ++ after)) := by
    simp [shape]
  rw [number, Text.firstLine_append inLine] at found
  rw [source]
  exact ⟨_, found, front, _, by rw [List.append_assoc]⟩

end Position

end UiMarkup
