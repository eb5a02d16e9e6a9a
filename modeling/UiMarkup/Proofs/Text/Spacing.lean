import Mathlib.Data.List.Chain
import Mathlib.Data.List.TakeWhile
import UiMarkup.Proofs.Text.Runs
import UiMarkup.Text.Blank

namespace UiMarkup.Text

def IsWord (word : List Char) : Prop :=
  word ≠ [] ∧ ∀ c ∈ word, isBlank c = false

/-- Single spaces between words, and no blank at either end. -/
structure SingleSpaced (text : List Char) : Prop where
  head : ∀ c ∈ text.head?, isBlank c = false
  last : ∀ c ∈ text.getLast?, isBlank c = false
  spaces : ∀ c ∈ text, isBlank c = true → c = ' '
  single : text.IsChain fun c d => isBlank c = true → isBlank d = false

theorem isBlank_space : isBlank ' ' = true := by decide

theorem splitWhere_cons_cut {cut : Char → Bool} {c : Char} (h : cut c = true) (text : List Char) :
    splitWhere cut (c :: text) = [] :: splitWhere cut text := by
  simp [splitWhere, h]

theorem splitWhere_cons_keep {cut : Char → Bool} {c : Char} {text part : List Char}
    {parts : List (List Char)} (h : cut c = false) (ht : splitWhere cut text = part :: parts) :
    splitWhere cut (c :: text) = (c :: part) :: parts := by
  simp [splitWhere, h, ht]

theorem not_cut_of_mem_splitWhere {cut : Char → Bool} {text part : List Char}
    (member : part ∈ splitWhere cut text) : ∀ c ∈ part, cut c = false := by
  induction text generalizing part with
  | nil => simp_all [splitWhere]
  | cons c text ih =>
    obtain ⟨first, parts, ht⟩ := List.exists_cons_of_ne_nil (splitWhere_ne_nil cut text)
    by_cases hc : cut c = true
    · rw [splitWhere_cons_cut hc] at member
      rcases List.mem_cons.mp member with rfl | member
      · simp
      · exact ih member
    · have keep : cut c = false := by simpa using hc
      rw [splitWhere_cons_keep keep ht] at member
      rcases List.mem_cons.mp member with rfl | member
      · intro d hd
        rcases List.mem_cons.mp hd with rfl | hd
        · exact keep
        · exact ih (ht ▸ List.mem_cons_self) d hd
      · exact ih (ht ▸ List.mem_cons_of_mem _ member)

theorem splitWhere_append_cut {cut : Char → Bool} {c : Char} (h : cut c = true)
    (left right : List Char) :
    splitWhere cut (left ++ c :: right) = splitWhere cut left ++ splitWhere cut right := by
  induction left with
  | nil => simp [splitWhere, h]
  | cons d left ih =>
    obtain ⟨part, parts, hl⟩ := List.exists_cons_of_ne_nil (splitWhere_ne_nil cut left)
    by_cases hd : cut d = true
    · rw [List.cons_append, splitWhere_cons_cut hd, splitWhere_cons_cut hd, ih, List.cons_append]
    · have keep : cut d = false := by simpa using hd
      rw [hl, List.cons_append] at ih
      rw [List.cons_append, splitWhere_cons_keep keep ih, splitWhere_cons_keep keep hl,
        List.cons_append]

theorem splitWhere_of_keep {cut : Char → Bool} {text : List Char}
    (h : ∀ c ∈ text, cut c = false) : splitWhere cut text = [text] := by
  induction text with
  | nil => rfl
  | cons c text ih =>
    exact splitWhere_cons_keep (h c List.mem_cons_self)
      (ih fun d hd => h d (List.mem_cons_of_mem _ hd))

theorem isWord_of_mem_words {text word : List Char} (member : word ∈ words text) : IsWord word := by
  obtain ⟨part, filled⟩ := List.mem_filter.mp member
  exact ⟨by simpa using filled, not_cut_of_mem_splitWhere part⟩

theorem words_append_blank {c : Char} (h : isBlank c = true) (left right : List Char) :
    words (left ++ c :: right) = words left ++ words right := by
  unfold words
  rw [splitWhere_append_cut h, List.filter_append]

theorem words_cons_blank {c : Char} (h : isBlank c = true) (text : List Char) :
    words (c :: text) = words text := by
  simpa [words, splitWhere] using words_append_blank h [] text

theorem words_of_isWord {word : List Char} (h : IsWord word) : words word = [word] := by
  unfold words
  rw [splitWhere_of_keep h.2]
  simp [h.1]

theorem words_eq_nil_of_blank {text : List Char} (h : ∀ c ∈ text, isBlank c = true) :
    words text = [] := by
  induction text with
  | nil => rfl
  | cons c text ih =>
    rw [words_cons_blank (h c List.mem_cons_self)]
    exact ih fun d hd => h d (List.mem_cons_of_mem _ hd)

theorem collapse_eq_nil_of_blank {text : List Char} (h : ∀ c ∈ text, isBlank c = true) :
    collapse text = [] := by
  rw [collapse, words_eq_nil_of_blank h]
  rfl

theorem words_joinWith {parts : List (List Char)} (h : ∀ part ∈ parts, IsWord part) :
    words (joinWith [' '] parts) = parts := by
  induction parts with
  | nil => rfl
  | cons part parts ih =>
    have first := words_of_isWord (h part List.mem_cons_self)
    have others := ih fun other member => h other (List.mem_cons_of_mem _ member)
    cases parts with
    | nil => exact first
    | cons next parts =>
      have shape : joinWith [' '] (part :: next :: parts)
          = part ++ ' ' :: joinWith [' '] (next :: parts) := by
        simp [joinWith]
      rw [shape, words_append_blank isBlank_space, first, others]
      rfl

theorem collapse_joinWith {parts : List (List Char)} (h : ∀ part ∈ parts, IsWord part) :
    collapse (joinWith [' '] parts) = joinWith [' '] parts := by
  rw [collapse, words_joinWith h]

theorem collapse_collapse (text : List Char) : collapse (collapse text) = collapse text :=
  collapse_joinWith fun _ member => isWord_of_mem_words member

theorem singleSpaced_of_isWord {word : List Char} (h : IsWord word) : SingleSpaced word := by
  refine ⟨?_, ?_, ?_, ?_⟩
  · exact fun c hc => h.2 c (List.mem_of_mem_head? hc)
  · exact fun c hc => h.2 c (List.mem_of_mem_getLast? hc)
  · intro c hc blank
    simp [h.2 c hc] at blank
  · have letters : word.Pairwise fun c d => isBlank c = true → isBlank d = false :=
      List.pairwise_of_forall_mem_list fun _ _ d hd _ => h.2 d hd
    exact letters.isChain

theorem SingleSpaced.cons_word {word text : List Char} (hw : IsWord word) (ht : SingleSpaced text)
    (filled : text ≠ []) : SingleSpaced (word ++ ' ' :: text) := by
  have single := singleSpaced_of_isWord hw
  refine ⟨?_, ?_, ?_, ?_⟩
  · rw [List.head?_append_of_ne_nil _ hw.1]
    exact single.head
  · have same : (word ++ ' ' :: text).getLast? = text.getLast? := by
      rw [List.getLast?_append_of_ne_nil _ (by simp), List.getLast?_cons_of_ne_nil filled]
    rw [same]
    exact ht.last
  · intro c hc blank
    rcases List.mem_append.mp hc with hc | hc
    · exact single.spaces c hc blank
    · rcases List.mem_cons.mp hc with rfl | hc
      · rfl
      · exact ht.spaces c hc blank
  · refine List.isChain_append.mpr ⟨single.single, ?_, ?_⟩
    · exact List.isChain_cons.mpr ⟨fun c hc _ => ht.head c hc, ht.single⟩
    · intro c hc d _ blank
      simp [single.last c hc] at blank

theorem joinWith_cons {part : List Char} {parts : List (List Char)} (h : parts ≠ [])
    (separator : List Char) :
    joinWith separator (part :: parts) = part ++ separator ++ joinWith separator parts := by
  cases parts with
  | nil => contradiction
  | cons next parts => rfl

theorem intercalate_eq_joinWith (separator : List Char) (parts : List (List Char)) :
    separator.intercalate parts = joinWith separator parts := by
  fun_induction joinWith separator parts with
  | case1 => rfl
  | case2 part => simp [List.intercalate]
  | case3 part next parts ih => rw [List.intercalate_cons_cons, ih]

theorem toList_intercalate (separator : String) (texts : List String) :
    (separator.intercalate texts).toList = joinWith separator.toList (texts.map String.toList) := by
  rw [String.toList_intercalate, intercalate_eq_joinWith]

theorem not_mem_joinWith {c : Char} {separator : List Char} {parts : List (List Char)}
    (between : c ∉ separator) (inside : ∀ part ∈ parts, c ∉ part) : c ∉ joinWith separator parts := by
  fun_induction joinWith separator parts with
  | case1 => simp
  | case2 part => exact inside part List.mem_cons_self
  | case3 part next parts ih =>
    rw [List.forall_mem_cons] at inside
    simp only [List.mem_append, not_or]
    exact ⟨⟨inside.1, between⟩, ih inside.2⟩

theorem joinWith_ne_nil {part : List Char} {parts : List (List Char)} (h : part ≠ [])
    (separator : List Char) : joinWith separator (part :: parts) ≠ [] := by
  cases parts <;> simp [joinWith, h]

theorem singleSpaced_joinWith {parts : List (List Char)} (h : ∀ part ∈ parts, IsWord part) :
    SingleSpaced (joinWith [' '] parts) := by
  induction parts with
  | nil => exact ⟨by simp [joinWith], by simp [joinWith], by simp [joinWith], by simp [joinWith]⟩
  | cons part parts ih =>
    have first := h part List.mem_cons_self
    have others := ih fun other member => h other (List.mem_cons_of_mem _ member)
    cases parts with
    | nil => exact singleSpaced_of_isWord first
    | cons next parts =>
      have second := h next (by simp)
      rw [joinWith_cons (by simp), List.append_assoc]
      exact others.cons_word first (joinWith_ne_nil second.1 _)

theorem SingleSpaced.behind_blank {before rest : List Char} {c : Char}
    (h : SingleSpaced (before ++ c :: rest)) (blank : isBlank c = true) :
    c = ' ' ∧ rest ≠ [] ∧ SingleSpaced rest := by
  have more : rest ≠ [] := by
    rintro rfl
    have last := h.last c (by simp)
    simp [blank] at last
  have chain := List.isChain_cons.mp (List.isChain_append.mp h.single).2.1
  refine ⟨h.spaces c (by simp) blank, more, fun d hd => chain.1 d hd blank, ?_, ?_, chain.2⟩
  · intro d hd
    refine h.last d ?_
    rw [List.getLast?_append_of_ne_nil _ (by simp), List.getLast?_cons_of_ne_nil more]
    exact hd
  · exact fun d hd => h.spaces d (by simp [hd])

theorem SingleSpaced.exists_words {text : List Char} (h : SingleSpaced text) :
    ∃ parts, (∀ part ∈ parts, IsWord part) ∧ joinWith [' '] parts = text := by
  induction size : text.length using Nat.strongRecOn generalizing text with
  | ind n ih =>
    subst size
    have split : text = text.takeWhile (!isBlank ·) ++ text.dropWhile (!isBlank ·) :=
      List.takeWhile_append_dropWhile.symm
    have letters : ∀ c ∈ text.takeWhile (!isBlank ·), isBlank c = false := by
      intro c hc
      simpa using List.mem_takeWhile_imp hc
    generalize text.takeWhile (!isBlank ·) = word at split letters
    cases hr : text.dropWhile (!isBlank ·) with
    | nil =>
      rw [hr, List.append_nil] at split
      by_cases none : word = []
      · exact ⟨[], by simp, by rw [split, none]; rfl⟩
      · exact ⟨[word], by simpa using ⟨none, letters⟩, split.symm⟩
    | cons c rest =>
      have blank : isBlank c = true := by
        have stop := List.head_dropWhile_not (!isBlank ·) (by rw [hr]; simp)
        simpa [hr] using stop
      rw [hr] at split
      subst split
      have filled : word ≠ [] := by
        rintro rfl
        have head := h.head c (by simp)
        simp [blank] at head
      obtain ⟨rfl, more, spaced⟩ := h.behind_blank blank
      obtain ⟨parts, good, joined⟩ := ih rest.length (by simp; omega) spaced rfl
      have some : parts ≠ [] := by
        rintro rfl
        exact more joined.symm
      refine ⟨word :: parts, ?_, by rw [joinWith_cons some, joined]; simp⟩
      intro part member
      rcases List.mem_cons.mp member with rfl | member
      · exact ⟨filled, letters⟩
      · exact good part member

theorem collapse_eq_self_iff {text : List Char} : collapse text = text ↔ SingleSpaced text := by
  constructor
  · intro h
    rw [← h]
    exact singleSpaced_joinWith fun _ member => isWord_of_mem_words member
  · intro h
    obtain ⟨parts, good, rfl⟩ := h.exists_words
    exact collapse_joinWith good

theorem splitWhere_joinWith {cut : Char → Bool} {mark : Char} (isCut : cut mark = true)
    {parts : List (List Char)} (filled : parts ≠ []) (keep : ∀ part ∈ parts, ∀ c ∈ part, cut c = false) :
    splitWhere cut (joinWith [mark] parts) = parts := by
  induction parts with
  | nil => contradiction
  | cons part parts ih =>
    rw [List.forall_mem_cons] at keep
    have first := splitWhere_of_keep keep.1
    cases parts with
    | nil => exact first
    | cons next parts =>
      have others := ih (by simp) keep.2
      rw [joinWith_cons (by simp), List.append_assoc, List.singleton_append, splitWhere_append_cut isCut,
        first, others]
      rfl

theorem trimEnd_append {front : List Char} (solid : Stops isBlank front.reverse) (rest : List Char) :
    trimEnd (front ++ rest) = front ++ trimEnd rest := by
  have kept : front.reverse.dropWhile isBlank = front.reverse :=
    @Stops.dropWhile_append _ [] _ (by simp) solid
  unfold trimEnd
  rw [List.reverse_append, List.dropWhile_append]
  split
  · rename_i blank
    rw [kept, List.isEmpty_iff.mp blank, List.reverse_reverse, List.reverse_nil, List.append_nil]
  · rw [List.reverse_append, List.reverse_reverse]

theorem trim_append {lead core tail : List Char} (isLead : ∀ c ∈ lead, isBlank c = true)
    (isTail : ∀ c ∈ tail, isBlank c = true) (head : Stops isBlank core)
    (last : Stops isBlank core.reverse) : trim (lead ++ (core ++ tail)) = core := by
  cases core with
  | nil =>
    have blank : ∀ c ∈ lead ++ tail, isBlank c = true := List.forall_mem_append.mpr ⟨isLead, isTail⟩
    have nothing := (Stops.nil isBlank).dropWhile_append blank
    rw [List.append_nil] at nothing
    rw [trim, trimStart, List.nil_append, nothing]
    rfl
  | cons c core =>
    have stop : Stops isBlank (c :: core ++ tail) := Stops.cons (head c rfl) _
    have isTail : ∀ c ∈ tail.reverse, isBlank c = true := by simpa using isTail
    rw [trim, trimStart, stop.dropWhile_append isLead, trimEnd, List.reverse_append,
      last.dropWhile_append isTail, List.reverse_reverse]

theorem trim_of_stops {text : List Char} (head : Stops isBlank text)
    (last : Stops isBlank text.reverse) : trim text = text := by
  have trimmed := @trim_append [] text [] (by simp) (by simp) head last
  rwa [List.nil_append, List.append_nil] at trimmed

theorem SingleSpaced.trim_eq {text : List Char} (h : SingleSpaced text) : trim text = text := by
  apply trim_of_stops h.head
  intro c last
  rw [List.head?_reverse] at last
  exact h.last c last

theorem exists_trimEnd (text : List Char) :
    ∃ tail, (∀ c ∈ tail, isBlank c = true) ∧ text = trimEnd text ++ tail := by
  refine ⟨(text.reverse.takeWhile isBlank).reverse, ?_, ?_⟩
  · intro c member
    exact List.mem_takeWhile_imp (List.mem_reverse.mp member)
  · rw [← List.reverse_inj, List.reverse_append, trimEnd, List.reverse_reverse, List.reverse_reverse]
    exact List.takeWhile_append_dropWhile.symm

theorem exists_trim (text : List Char) :
    ∃ lead tail, (∀ c ∈ lead, isBlank c = true) ∧ (∀ c ∈ tail, isBlank c = true) ∧
      text = lead ++ (trim text ++ tail) ∧ Stops isBlank (trim text) ∧
      Stops isBlank (trim text).reverse := by
  obtain ⟨tail, isTail, back⟩ := exists_trimEnd (trimStart text)
  rw [← trim] at back
  have front : text = text.takeWhile isBlank ++ trimStart text :=
    List.takeWhile_append_dropWhile.symm
  have isLead : ∀ c ∈ text.takeWhile isBlank, isBlank c = true := fun c member =>
    List.mem_takeWhile_imp member
  have last : Stops isBlank (trim text).reverse := by
    rw [trim, trimEnd, List.reverse_reverse]
    exact Stops.dropWhile isBlank _
  have head : Stops isBlank (trim text) := by
    intro c first
    apply Stops.dropWhile isBlank text c
    have start : trimStart text = text.dropWhile isBlank := rfl
    rw [← start, back, List.head?_append, first]
    rfl
  refine ⟨text.takeWhile isBlank, tail, isLead, isTail, ?_, head, last⟩
  rw [← back]
  exact front

theorem trim_append_blanks (text : List Char) {tail : List Char} (isTail : ∀ c ∈ tail, isBlank c = true) :
    trim (text ++ tail) = trim text := by
  obtain ⟨lead, rest, isLead, isRest, shape, head, last⟩ := exists_trim text
  have whole : text ++ tail = lead ++ (trim text ++ (rest ++ tail)) := by
    rw [← List.append_assoc (trim text), ← List.append_assoc lead, ← shape]
  have blank : ∀ c ∈ rest ++ tail, isBlank c = true := List.forall_mem_append.mpr ⟨isRest, isTail⟩
  rw [whole]
  exact trim_append isLead blank head last

theorem blank_or_of_trim {text : List Char} {keep : Char → Prop}
    (inside : ∀ c ∈ trim text, isBlank c = true ∨ keep c) : ∀ c ∈ text, isBlank c = true ∨ keep c := by
  obtain ⟨lead, tail, isLead, isTail, shape, _, _⟩ := exists_trim text
  rw [shape, List.forall_mem_append, List.forall_mem_append]
  exact ⟨fun c member => .inl (isLead c member), inside, fun c member => .inl (isTail c member)⟩

theorem trim_of_isWord {word : List Char} (h : IsWord word) : trim word = word :=
  (singleSpaced_of_isWord h).trim_eq

theorem trim_cons_blank {c : Char} (blank : isBlank c = true) (text : List Char) :
    trim (c :: text) = trim text := by
  simp [trim, trimStart, blank]

theorem trim_trimEnd (text : List Char) : trim (trimEnd text) = trim text := by
  obtain ⟨tail, isTail, shape⟩ := exists_trimEnd text
  have trimmed := trim_append_blanks (trimEnd text) isTail
  rw [← shape] at trimmed
  exact trimmed.symm

end UiMarkup.Text
