import UiMarkup.Text.Ascii
import UiMarkup.Text.Cut

namespace UiMarkup.Text

theorem afterStart?_eq_some_iff {start text rest : List Char} :
    afterStart? start text = some rest ↔ text = start ++ rest := by
  induction start generalizing text with
  | nil => simp [afterStart?]
  | cons s start ih =>
    cases text with
    | nil => simp [afterStart?]
    | cons c text =>
      by_cases same : s = c
      · simp [afterStart?, same, ih]
      · simp [afterStart?, same, Ne.symm same]

theorem afterStart?_append (start rest : List Char) : afterStart? start (start ++ rest) = some rest :=
  afterStart?_eq_some_iff.mpr rfl

theorem afterStart?_eq_none_iff {start text : List Char} :
    afterStart? start text = none ↔ ¬ start <+: text := by
  rw [Option.eq_none_iff_forall_not_mem]
  constructor
  · rintro h ⟨rest, rfl⟩
    exact h rest (afterStart?_append start rest)
  · intro h rest found
    exact h ⟨rest, (afterStart?_eq_some_iff.mp found).symm⟩

theorem eq_of_beforeEnd? {tail text before : List Char} (found : beforeEnd? tail text = some before) :
    text = before ++ tail := by
  obtain ⟨rest, start, same⟩ := Option.map_eq_some_iff.mp found
  rw [← List.reverse_inj, afterStart?_eq_some_iff.mp start, ← same]
  simp

theorem beforeEnd?_append (front tail : List Char) : beforeEnd? tail (front ++ tail) = some front := by
  rw [beforeEnd?, List.reverse_append, afterStart?_append]
  simp

theorem cutAt?_eq_some_iff {mark : Char} {text before after : List Char} :
    cutAt? mark text = some (before, after) ↔ text = before ++ mark :: after ∧ mark ∉ before := by
  induction text generalizing before with
  | nil => simp [cutAt?]
  | cons c text ih =>
    by_cases same : c = mark
    · subst same
      cases before with
      | nil => simp [cutAt?, eq_comm]
      | cons d before => simp +contextual [cutAt?, eq_comm]
    · cases before with
      | nil => simp [cutAt?, same]
      | cons d before =>
        have tail := @ih before
        simp only [cutAt?, same, ↓reduceIte, Option.map_eq_some_iff, Prod.mk.injEq, List.cons.injEq,
          List.cons_append, List.mem_cons, not_or]
        constructor
        · rintro ⟨⟨left, right⟩, found, ⟨rfl, rfl⟩, rfl⟩
          obtain ⟨rfl, absent⟩ := tail.mp found
          exact ⟨⟨rfl, rfl⟩, Ne.symm same, absent⟩
        · rintro ⟨⟨rfl, rest⟩, _, absent⟩
          exact ⟨(before, after), tail.mpr ⟨rest, absent⟩, ⟨rfl, rfl⟩, rfl⟩

theorem cutAround?_of_first {needle before : List Char} (after : List Char) (filled : needle ≠ [])
    (first : ¬ needle <:+: before ++ needle.dropLast) :
    cutAround? needle (before ++ needle ++ after) = some (before, after) := by
  induction before with
  | nil =>
    obtain ⟨n, tail, rfl⟩ := List.exists_cons_of_ne_nil filled
    have found : afterStart? (n :: tail) (n :: (tail ++ after)) = some after :=
      afterStart?_append (n :: tail) after
    simp [cutAround?, found]
  | cons c before ih =>
    have later : ¬ needle <:+: before ++ needle.dropLast := by
      intro inner
      exact first (List.IsInfix.trans inner (List.suffix_cons c _).isInfix)
    have absent : afterStart? needle (c :: (before ++ needle ++ after)) = none := by
      rw [afterStart?_eq_none_iff]
      intro early
      -- an occurrence here would end inside the text up to the needle's last character
      have size : needle.length ≤ (c :: before ++ needle.dropLast).length := by
        simp only [List.cons_append, List.length_cons, List.length_append, List.length_dropLast]
        omega
      have whole : c :: before ++ needle.dropLast <+: c :: (before ++ needle ++ after) := by
        refine List.prefix_cons_inj c |>.mpr ?_
        rw [List.append_assoc]
        refine (List.prefix_append_right_inj before).mpr ?_
        exact (List.dropLast_prefix needle).trans (List.prefix_append needle after)
      exact first (List.prefix_of_prefix_length_le early whole size).isInfix
    rw [List.cons_append, List.cons_append, cutAround?, absent]
    simp only [ih later, Option.map_some]

theorem cutAround?_eq_some {needle text before after : List Char}
    (found : cutAround? needle text = some (before, after)) :
    text = before ++ needle ++ after ∧ (needle ≠ [] → ¬ needle <:+: before) := by
  induction text generalizing before with
  | nil =>
    simp only [cutAround?, Option.map_eq_some_iff, Prod.mk.injEq] at found
    obtain ⟨rest, h, rfl, rfl⟩ := found
    exact ⟨afterStart?_eq_some_iff.mp h, by simp [List.infix_nil]⟩
  | cons c text ih =>
    unfold cutAround? at found
    split at found
    · rename_i rest h
      simp only [Option.some.injEq, Prod.mk.injEq] at found
      obtain ⟨rfl, rfl⟩ := found
      exact ⟨afterStart?_eq_some_iff.mp h, by simp [List.infix_nil]⟩
    · rename_i absent
      simp only [Option.map_eq_some_iff, Prod.mk.injEq] at found
      obtain ⟨⟨left, right⟩, h, rfl, rfl⟩ := found
      obtain ⟨rfl, clear⟩ := ih h
      refine ⟨by simp, fun filled inner => ?_⟩
      rcases List.infix_cons_iff.mp inner with early | inner
      · refine afterStart?_eq_none_iff.mp absent (early.trans ?_)
        exact ⟨needle ++ right, by simp⟩
      · exact clear filled inner

theorem afterLetters?_eq (start text : List Char) :
    afterLetters? start text = (afterStart? start (lowered text)).map fun _ => text.drop start.length := by
  induction start generalizing text with
  | nil => simp [afterLetters?, afterStart?]
  | cons s start ih =>
    cases text with
    | nil => simp [afterLetters?, afterStart?, lowered]
    | cons c text =>
      by_cases same : s = c.toLower
      · simp [afterLetters?, afterStart?, lowered, same, ih]
      · simp [afterLetters?, afterStart?, lowered, same]

theorem lowered_append (left right : List Char) :
    lowered (left ++ right) = lowered left ++ lowered right :=
  List.map_append

theorem length_lowered (text : List Char) : (lowered text).length = text.length :=
  List.length_map _

theorem afterLetters?_eq_some_iff {start text rest : List Char} :
    afterLetters? start text = some rest ↔
      ∃ written, text = written ++ rest ∧ lowered written = start := by
  rw [afterLetters?_eq]
  simp only [Option.map_eq_some_iff, afterStart?_eq_some_iff]
  constructor
  · rintro ⟨low, h, rfl⟩
    refine ⟨text.take start.length, (List.take_append_drop _ _).symm, ?_⟩
    rw [lowered, List.map_take, ← lowered, h, List.take_left]
  · rintro ⟨written, rfl, rfl⟩
    exact ⟨lowered rest, lowered_append _ _, by rw [length_lowered, List.drop_left]⟩

theorem cutAroundLetters?_eq (needle text : List Char) :
    cutAroundLetters? needle text = (cutAround? needle (lowered text)).map fun (before, _) =>
      (text.take before.length, text.drop (before.length + needle.length)) := by
  induction text with
  | nil =>
    rw [cutAroundLetters?, afterLetters?_eq]
    cases h : afterStart? needle (lowered []) <;> simp_all [cutAround?, lowered]
  | cons c text ih =>
    have low : lowered (c :: text) = c.toLower :: lowered text := rfl
    rw [cutAroundLetters?, afterLetters?_eq, ih, low, cutAround?]
    cases h : afterStart? needle (c.toLower :: lowered text) with
    | some rest => simp
    | none =>
      cases cutAround? needle (lowered text) <;> simp [Nat.add_right_comm]

theorem cutAroundLetters?_of_first {needle before written : List Char} (after : List Char)
    (filled : needle ≠ []) (same : lowered written = needle)
    (first : ¬ needle <:+: lowered before ++ needle.dropLast) :
    cutAroundLetters? needle (before ++ written ++ after) = some (before, after) := by
  have found := cutAround?_of_first (lowered after) filled first
  rw [← same, ← lowered_append, ← lowered_append, same] at found
  have size : (lowered before).length + needle.length = (before ++ written).length := by
    rw [← same, length_lowered, length_lowered, List.length_append]
  have rest : (before ++ written ++ after).drop ((lowered before).length + needle.length) = after := by
    rw [size, List.drop_left]
  have start : (before ++ written ++ after).take (lowered before).length = before := by
    rw [length_lowered, List.append_assoc, List.take_left]
  rw [cutAroundLetters?_eq, found]
  simp only [Option.map_some]
  rw [rest, start]

theorem cutAroundLetters?_eq_some {needle text before after : List Char}
    (found : cutAroundLetters? needle text = some (before, after)) :
    (∃ written, text = before ++ written ++ after ∧ lowered written = needle) ∧
      (needle ≠ [] → ¬ needle <:+: lowered before) := by
  rw [cutAroundLetters?_eq] at found
  simp only [Option.map_eq_some_iff, Prod.mk.injEq] at found
  obtain ⟨⟨low, rest⟩, h, rfl, rfl⟩ := found
  obtain ⟨split, clear⟩ := cutAround?_eq_some h
  have size : low.length + needle.length ≤ text.length := by
    rw [← length_lowered text, split]
    simp only [List.length_append]
    omega
  have start : lowered (text.take low.length) = low := by
    rw [lowered, List.map_take, ← lowered, split, List.append_assoc, List.take_left]
  refine ⟨⟨(text.drop low.length).take needle.length, ?_, ?_⟩, ?_⟩
  · rw [List.append_assoc, ← List.drop_drop, List.take_append_drop, List.take_append_drop]
  · rw [lowered, List.map_take, List.map_drop, ← lowered, split, List.append_assoc, List.drop_left,
      List.take_left]
  · rw [start]
    exact clear

/-- A needle whose first character does not come again in it cannot start before a copy of itself
and end inside it. -/
theorem not_infix_append_dropLast {n : Char} {tail text : List Char} (single : n ∉ tail)
    (h : ¬ n :: tail <:+: text) : ¬ n :: tail <:+: text ++ (n :: tail).dropLast := by
  rintro ⟨left, right, whole⟩
  rw [List.append_assoc] at whole
  rcases List.append_eq_append_iff.mp whole with ⟨shared, rfl, inside⟩ | ⟨shared, rfl, inside⟩
  · rcases List.append_eq_append_iff.mp inside with ⟨more, rfl, _⟩ | ⟨rest, cut, border⟩
    · exact h ⟨left, more, by simp⟩
    · cases shared with
      | nil =>
        have size := congrArg List.length border
        rw [← List.nil_append rest, ← cut] at size
        simp at size
        omega
      | cons m shared =>
        simp only [List.cons_append, List.cons.injEq] at cut
        obtain ⟨rfl, rfl⟩ := cut
        cases rest with
        | nil => exact h ⟨left, [], by simp⟩
        | cons b rest =>
          rw [List.dropLast_cons_of_ne_nil (by simp), List.cons_append, List.cons.injEq] at border
          exact single (by simp [border.1])
  · have size := congrArg List.length inside
    simp at size
    omega

end UiMarkup.Text
