import UiMarkup.Proofs.Markup.Reading

namespace UiMarkup

theorem ok_of_bind {ε α β : Type} {first : Except ε α} {next : α → Except ε β} {result : β}
    (h : first >>= next = .ok result) : ∃ value, first = .ok value ∧ next value = .ok result := by
  cases first with
  | error e => simp [Bind.bind, Except.bind] at h
  | ok value => exact ⟨value, rfl, h⟩

theorem ok_bind {ε α β : Type} (a : α) (next : α → Except ε β) : (Except.ok a >>= next) = next a :=
  rfl

theorem error_of_bind {ε α β : Type} {first : Except ε α} {next : α → Except ε β} {e : ε}
    (h : first >>= next = .error e) :
    first = .error e ∨ ∃ value, first = .ok value ∧ next value = .error e := by
  cases first with
  | error other =>
    cases h
    exact .inl rfl
  | ok value => exact .inr ⟨value, rfl, h⟩

theorem ok_of_toOption_map {ε α β : Type} {result : Except ε α} {f : α → β} {seen : β}
    (h : result.toOption.map f = some seen) : ∃ value, result = .ok value ∧ f value = seen := by
  cases result with
  | error e => simp [Except.toOption] at h
  | ok value => exact ⟨value, rfl, by simpa [Except.toOption] using h⟩

theorem error_iff {α : Type} {result : Except Error α} {e : Error} :
    result = .error e ↔ (result.map fun _ => ()) = .error e := by
  cases result <;> simp [Except.map]

namespace Cursor

def ReadsAtLeast (count : Nat) (cursor later : Cursor) : Prop :=
  ∃ text, count ≤ text.length ∧ Reads cursor text later

theorem Reads.atLeast {cursor later : Cursor} {text : List Char} {count : Nat}
    (h : Reads cursor text later) (size : count ≤ text.length) : ReadsAtLeast count cursor later :=
  ⟨text, size, h⟩

theorem ReadsAtLeast.refl (cursor : Cursor) : ReadsAtLeast 0 cursor cursor :=
  (Reads.refl cursor).atLeast (by simp)

theorem ReadsAtLeast.trans {first second third : Cursor} {left right : Nat}
    (h : ReadsAtLeast left first second) (k : ReadsAtLeast right second third) :
    ReadsAtLeast (left + right) first third := by
  obtain ⟨before, hb, h⟩ := h
  obtain ⟨after, ha, k⟩ := k
  exact (h.trans k).atLeast (by simp only [List.length_append]; omega)

theorem ReadsAtLeast.weaken {cursor later : Cursor} {count fewer : Nat}
    (h : ReadsAtLeast count cursor later) (le : fewer ≤ count) : ReadsAtLeast fewer cursor later := by
  obtain ⟨text, size, h⟩ := h
  exact h.atLeast (by omega)

theorem ReadsAtLeast.length_le {cursor later : Cursor} {count : Nat}
    (h : ReadsAtLeast count cursor later) : later.rest.length + count ≤ cursor.rest.length := by
  obtain ⟨text, size, split, _⟩ := h
  rw [split, List.length_append]
  omega

theorem readsAtLeast_skip {cursor : Cursor} {count : Nat} (h : count ≤ cursor.rest.length) :
    ReadsAtLeast count cursor (cursor.skip count) :=
  (reads_skip cursor count).atLeast (by simp [h])

theorem readsAtLeast_skipBlanks (cursor : Cursor) : ReadsAtLeast 0 cursor cursor.skipBlanks :=
  (reads_skipWhile cursor Text.isBlank).atLeast (by simp)

end Cursor

namespace Reader

open Cursor (Reads ReadsAtLeast)

variable {cursor later : Cursor}

theorem expect_ok {wanted : Char} (h : expect wanted cursor = .ok later) :
    Reads cursor [wanted] later := by
  obtain ⟨position, rest⟩ := cursor
  cases rest with
  | nil => simp [expect, failAt] at h
  | cons found rest =>
    simp only [expect] at h
    split at h
    · rename_i same
      subst same
      cases h
      exact ⟨rfl, rfl⟩
    · simp [failAt] at h

theorem readName_ok {name : String} (h : readName cursor = .ok (name, later)) :
    IsTagName name.toList ∧ Reads cursor name.toList later := by
  have run := Cursor.reads_skipWhile cursor isNamePart
  unfold readName at h
  split at h
  · simp [failAt] at h
  · rename_i c rest here
    split at h
    · rename_i start
      simp only [Except.ok.injEq, Prod.mk.injEq] at h
      obtain ⟨rfl, rfl⟩ := h
      rw [String.toList_ofList]
      refine ⟨⟨c, rest.takeWhile isNamePart, ?_, start, ?_⟩, run⟩
      · simp [Cursor.run, here, isNamePart_of_isNameStart start]
      · exact fun d hd => List.mem_takeWhile_imp hd
    · simp [failAt] at h

theorem skipComment_ok (h : skipComment cursor = .ok later) : ReadsAtLeast 3 cursor later := by
  unfold skipComment at h
  split at h
  · rename_i before after found
    cases h
    have split := (Text.cutAround?_eq_some found).1
    refine (Cursor.readsAtLeast_skip ?_).weaken (Nat.le_add_left 3 before.length)
    rw [split]
    simp
  · simp [failAt] at h

theorem skipTriviaWithin_ok {bound : List Char} (h : skipTriviaWithin bound cursor = .ok later) :
    ReadsAtLeast 0 cursor later := by
  induction bound generalizing cursor with
  | nil =>
    cases h
    exact Cursor.readsAtLeast_skipBlanks cursor
  | cons b bound ih =>
    unfold skipTriviaWithin at h
    split at h
    · obtain ⟨behind, comment, more⟩ := ok_of_bind h
      have start := (Cursor.readsAtLeast_skipBlanks cursor).trans (skipComment_ok comment)
      exact (start.trans (ih more)).weaken (by omega)
    · cases h
      exact Cursor.readsAtLeast_skipBlanks cursor

theorem bareLength_le (text : List Char) : bareLength text ≤ text.length := by
  fun_induction bareLength text with
  | case1 => simp
  | case2 => simp
  | case3 => simp
  | case4 c rest _ _ ih => simpa using ih

theorem readValue_ok {value : String} (h : readValue cursor = .ok (value, later)) :
    ReadsAtLeast 1 cursor later := by
  unfold readValue at h
  split at h
  · simp [failAt] at h
  · rename_i c rest here
    split at h
    · split at h
      · rename_i raw after cut
        cases h
        have split := (Text.cutAt?_eq_some_iff.mp cut).1
        refine (Cursor.readsAtLeast_skip ?_).weaken (by omega)
        rw [here, split]
        simp
      · simp [failAt] at h
    · simp only at h
      split at h
      · simp [failAt] at h
      · rename_i positive
        cases h
        exact (Cursor.readsAtLeast_skip (bareLength_le _)).weaken (by omega)

theorem readOptionalValue_ok {value : Option String}
    (h : readOptionalValue cursor = .ok (value, later)) : ReadsAtLeast 0 cursor later := by
  have gap := Cursor.readsAtLeast_skipBlanks cursor
  unfold readOptionalValue at h
  split at h
  · rename_i more here
    obtain ⟨⟨found, behind⟩, read, done⟩ := ok_of_bind h
    cases done
    have sign : ReadsAtLeast 1 cursor.skipBlanks (cursor.skipBlanks.skip 1) :=
      Cursor.readsAtLeast_skip (by simp [here])
    have value := (Cursor.readsAtLeast_skipBlanks (cursor.skipBlanks.skip 1)).trans (readValue_ok read)
    exact (gap.trans (sign.trans value)).weaken (by omega)
  · cases h
    exact gap

theorem reads_attributeName (cursor : Cursor) (filled : cursor.run isAttributePart ≠ []) :
    ReadsAtLeast 1 cursor (cursor.skipWhile isAttributePart) :=
  (Cursor.reads_skipWhile cursor isAttributePart).atLeast (List.length_pos_iff.mpr filled)

theorem readAttribute_ok {given : Attribute} (h : readAttribute cursor = .ok (given, later)) :
    given.WellFormed ∧ ReadsAtLeast 1 cursor later := by
  have parts : ∀ c ∈ cursor.run isAttributePart, isAttributePart c = true :=
    fun c hc => List.mem_takeWhile_imp hc
  have reads := reads_attributeName cursor
  unfold readAttribute at h
  split at h
  · simp [failAt] at h
  · simp [failAt] at h
  · rename_i name single here
    obtain ⟨⟨value, behind⟩, read, done⟩ := ok_of_bind h
    cases done
    rw [here] at parts reads
    refine ⟨⟨?_, ?_, fun _ => rfl⟩, ((reads (by simp)).trans (readOptionalValue_ok read))⟩
    · rw [String.toList_ofList]
      rintro rfl
      exact single rfl
    · rw [String.toList_ofList]
      exact fun c hc => parts c (List.mem_cons_of_mem _ hc)
  · rename_i name filled single colon
    obtain ⟨⟨value, behind⟩, read, done⟩ := ok_of_bind h
    cases done
    refine ⟨⟨?_, ?_, ?_⟩, ((reads filled).trans (readOptionalValue_ok read))⟩
    · rw [String.toList_ofList]
      exact filled
    · rw [String.toList_ofList]
      exact parts
    · intro head
      rw [String.toList_ofList] at head
      obtain ⟨rest, start⟩ := List.head?_eq_some_iff.mp head
      exact absurd start (colon rest)

theorem readAttributesWithin_ok {bound : List Char} {given : List Attribute}
    (h : readAttributesWithin bound cursor = .ok (given, later)) :
    (∀ a ∈ given, a.WellFormed) ∧ EndsTag later.rest ∧ ReadsAtLeast 0 cursor later := by
  induction bound generalizing cursor given with
  | nil => simp [readAttributesWithin, failAt] at h
  | cons b bound ih =>
    have gap := Cursor.readsAtLeast_skipBlanks cursor
    unfold readAttributesWithin at h
    split at h
    · simp [failAt] at h
    · rename_i more here
      cases h
      exact ⟨by simp, .inl ⟨more, here⟩, gap⟩
    · rename_i more here
      cases h
      exact ⟨by simp, .inr ⟨more, here⟩, gap⟩
    · obtain ⟨⟨first, behind⟩, read, h⟩ := ok_of_bind h
      obtain ⟨⟨others, last⟩, rest, done⟩ := ok_of_bind h
      cases done
      obtain ⟨wellFormed, start⟩ := readAttribute_ok read
      obtain ⟨othersWellFormed, tagEnd, finish⟩ := ih rest
      refine ⟨?_, tagEnd, ((gap.trans start).trans finish).weaken (by omega)⟩
      intro a ha
      rcases List.mem_cons.mp ha with rfl | ha
      · exact wellFormed
      · exact othersWellFormed a ha

theorem readAttributes_ok {given : List Attribute} (h : readAttributes cursor = .ok (given, later)) :
    (∀ a ∈ given, a.WellFormed) ∧ EndsTag later.rest ∧ ReadsAtLeast 0 cursor later :=
  readAttributesWithin_ok h

theorem readOpening_parts {depth : Nat} {opening : Opening}
    (h : readOpening depth cursor = .ok (opening, later)) :
    ∃ opened named last, expect '<' cursor = .ok opened ∧ readName opened = .ok (opening.tag, named) ∧
      Text.sameLetters opening.tag "script" = false ∧ depth < depthLimit ∧
      readAttributes named = .ok (opening.attributes, last) ∧ opening.position = cursor.position ∧
      ((opening.complete = true ∧ (∃ more, last.rest = '/' :: '>' :: more) ∧ later = last.skip 2) ∨
        (opening.complete = isVoid opening.tag ∧ expect '>' last = .ok later)) := by
  unfold readOpening at h
  obtain ⟨opened, angle, h⟩ := ok_of_bind h
  obtain ⟨⟨tag, named⟩, name, h⟩ := ok_of_bind h
  simp only at h
  split at h
  · simp [throw, throwThe, MonadExceptOf.throw, Bind.bind, Except.bind] at h
  rename_i notScript
  split at h
  · simp [failAt, Bind.bind, Except.bind] at h
  rename_i room
  obtain ⟨⟨given, last⟩, attributes, h⟩ := ok_of_bind h
  have other : Text.sameLetters tag "script" = false := by simpa using notScript
  simp only at h
  split at h
  · rename_i more here
    cases h
    exact ⟨opened, named, last, angle, name, other, by omega, attributes, rfl, .inl ⟨rfl, ⟨more, here⟩, rfl⟩⟩
  · obtain ⟨behind, close, done⟩ := ok_of_bind h
    cases done
    exact ⟨opened, named, last, angle, name, other, by omega, attributes, rfl, .inr ⟨rfl, close⟩⟩

structure Opens (depth : Nat) (cursor : Cursor) (opening : Opening) (later : Cursor) : Prop where
  name : IsTagName opening.tag.toList
  notScript : Text.sameLetters opening.tag "script" = false
  room : depth < depthLimit
  place : opening.position = cursor.position
  attributes : ∀ a ∈ opening.attributes, a.WellFormed
  notVoid : opening.complete = false → isVoid opening.tag = false
  starts : ∃ more, cursor.rest = '<' :: (opening.tag.toList ++ more)
  reads : ReadsAtLeast 3 cursor later

theorem readOpening_ok {depth : Nat} {opening : Opening}
    (h : readOpening depth cursor = .ok (opening, later)) : Opens depth cursor opening later := by
  obtain ⟨opened, named, last, angle, name, notScript, room, attributes, place, ends⟩ := readOpening_parts h
  obtain ⟨isName, readsName⟩ := readName_ok name
  obtain ⟨wellFormed, _, readsAttributes⟩ := readAttributes_ok attributes
  have filled : 1 ≤ opening.tag.toList.length := by
    obtain ⟨c, more, shape, _⟩ := isName
    simp [shape]
  have starts : ∃ more, cursor.rest = '<' :: (opening.tag.toList ++ more) :=
    ⟨named.rest, ((expect_ok angle).trans readsName).1⟩
  have before : ReadsAtLeast 2 cursor last :=
    (((expect_ok angle).trans readsName).atLeast (by simp; omega)).trans readsAttributes
  rcases ends with ⟨complete, ⟨more, here⟩, rfl⟩ | ⟨complete, close⟩
  · have finish : ReadsAtLeast 2 last (last.skip 2) := Cursor.readsAtLeast_skip (by simp [here])
    exact ⟨isName, notScript, room, place, wellFormed, by simp [complete], starts,
      (before.trans finish).weaken (by omega)⟩
  · have finish : ReadsAtLeast 1 last later := (expect_ok close).atLeast (by simp)
    exact ⟨isName, notScript, room, place, wellFormed, by simp [complete], starts, before.trans finish⟩

end Reader

end UiMarkup
