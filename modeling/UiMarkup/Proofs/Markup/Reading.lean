import UiMarkup.Proofs.Markup.Written
import UiMarkup.Proofs.Text.Runs
import UiMarkup.Proofs.Text.Search

namespace UiMarkup.Text

def blankCodes : List Nat :=
  [0x09, 0x0A, 0x0B, 0x0C, 0x0D, 0x20, 0x85, 0xA0, 0x1680, 0x2000, 0x2001, 0x2002, 0x2003, 0x2004,
    0x2005, 0x2006, 0x2007, 0x2008, 0x2009, 0x200A, 0x2028, 0x2029, 0x202F, 0x205F, 0x3000]

theorem toNat_mem_blankCodes {c : Char} (h : isBlank c = true) : c.toNat ∈ blankCodes := by
  simp only [blankCodes, List.mem_cons, List.not_mem_nil, or_false]
  unfold isBlank at h
  simp only at h
  split at h <;> simp only [Bool.or_eq_true, Bool.and_eq_true, beq_iff_eq, decide_eq_true_eq] at h <;>
    omega

theorem isAlphanumeric_of_isBlank {c : Char} (h : isBlank c = true) : isAlphanumeric c = false := by
  have table : ∀ n ∈ blankCodes, isAlphanumeric (Char.ofNat n) = false := by decide +kernel
  have found := table c.toNat (toNat_mem_blankCodes h)
  rwa [Char.ofNat_toNat] at found

end UiMarkup.Text

namespace UiMarkup.Reader

open Text (isBlank)

theorem isNamePart_of_isBlank {c : Char} (h : isBlank c = true) : isNamePart c = false := by
  have letters := Text.isAlphanumeric_of_isBlank h
  have signs : ∀ n ∈ Text.blankCodes, Char.ofNat n ∉ ['_', '$', '-', '.', ':'] := by decide
  have found := signs c.toNat (Text.toNat_mem_blankCodes h)
  rw [Char.ofNat_toNat] at found
  simp only [List.mem_cons, List.not_mem_nil, or_false, not_or] at found
  simp [isNamePart, isNameStart, letters, found]

theorem isNamePart_of_isNameStart {c : Char} (h : isNameStart c = true) : isNamePart c = true := by
  simp [isNamePart, h]

theorem isBlank_of_isAttributePart {c : Char} (h : isAttributePart c = true) : isBlank c = false := by
  simp only [isAttributePart, Bool.not_eq_true', Bool.or_eq_false_iff] at h
  simp [h]

theorem isAttributePart_of_isBlank {c : Char} (h : isBlank c = true) : isAttributePart c = false := by
  simp [isAttributePart, h]

theorem stops_append_of_blanks {keep : Char → Bool} {gap rest : List Char}
    (outside : ∀ {c}, isBlank c = true → keep c = false) (isGap : Blanks gap)
    (stop : Stops keep rest) : Stops keep (gap ++ rest) := by
  cases gap with
  | nil => exact stop
  | cons c gap => exact Stops.cons (outside (isGap c (by simp))) _

section Cursor

variable (position : Position) {text rest : List Char}

theorem run_append {keep : Char → Bool} (inside : ∀ c ∈ text, keep c = true)
    (stop : Stops keep rest) : Cursor.run ⟨position, text ++ rest⟩ keep = text :=
  Stops.takeWhile_append inside stop

theorem skipWhile_append {keep : Char → Bool} (inside : ∀ c ∈ text, keep c = true)
    (stop : Stops keep rest) :
    Cursor.skipWhile ⟨position, text ++ rest⟩ keep = ⟨position.advance text, rest⟩ := by
  simp only [Cursor.skipWhile, Stops.takeWhile_append inside stop, Stops.dropWhile_append inside stop]

theorem skipBlanks_append (gap : Blanks text) (stop : Stops isBlank rest) :
    Cursor.skipBlanks ⟨position, text ++ rest⟩ = ⟨position.advance text, rest⟩ :=
  skipWhile_append position gap stop

theorem skipBlanks_of_stops (stop : Stops isBlank rest) :
    Cursor.skipBlanks ⟨position, rest⟩ = ⟨position, rest⟩ := by
  have none : Blanks [] := by simp [Blanks]
  simpa using skipBlanks_append position none stop

theorem stops_skipBlanks (cursor : Cursor) : Stops isBlank cursor.skipBlanks.rest :=
  Stops.dropWhile isBlank cursor.rest

theorem skipBlanks_skipBlanks (cursor : Cursor) : cursor.skipBlanks.skipBlanks = cursor.skipBlanks :=
  skipBlanks_of_stops _ (stops_skipBlanks cursor)

theorem skip_append {count : Nat} (size : count = text.length) :
    Cursor.skip ⟨position, text ++ rest⟩ count = ⟨position.advance text, rest⟩ := by
  subst size
  simp [Cursor.skip]

theorem expect_cons (c : Char) : expect c ⟨position, c :: rest⟩ = .ok ⟨position.after c, rest⟩ := by
  simp [expect, Cursor.skip]

theorem readName_append (name : IsTagName text) (stop : Stops isNamePart rest) :
    readName ⟨position, text ++ rest⟩ = .ok (String.ofList text, ⟨position.advance text, rest⟩) := by
  obtain ⟨c, more, rfl, first, others⟩ := name
  have inside : ∀ d ∈ c :: more, isNamePart d = true := by
    intro d hd
    rcases List.mem_cons.mp hd with rfl | hd
    · exact isNamePart_of_isNameStart first
    · exact others d hd
  rw [readName, run_append position inside stop, skipWhile_append position inside stop]
  simp [first]

theorem atComment_eq_false_iff {cursor : Cursor} :
    atComment cursor = false ↔ ¬ ['<', '!', '-', '-'] <+: cursor.rest := by
  simp [atComment, Text.afterStart?_eq_none_iff]

theorem atComment_append (comment : IsComment text) : atComment ⟨position, text ++ rest⟩ = true := by
  have start : ['<', '!', '-', '-'] <+: text ++ rest := comment.1.trans (List.prefix_append _ _)
  by_contra h
  exact atComment_eq_false_iff.mp (by simpa using h) start

theorem skipComment_append (comment : IsComment text) :
    skipComment ⟨position, text ++ rest⟩ = .ok ⟨position.advance text, rest⟩ := by
  obtain ⟨_, before, rfl, first⟩ := comment
  have found := Text.cutAround?_of_first rest (by simp) first
  simp only [skipComment, found]
  rw [skip_append position (by simp)]

theorem IsComment.exists_eq (comment : IsComment text) : ∃ more, text = '<' :: '!' :: more := by
  obtain ⟨⟨more, rfl⟩, _⟩ := comment
  exact ⟨_, rfl⟩

theorem skipTriviaWithin_append {bound gap : List Char} (trivia : Trivia gap)
    (enough : gap.length ≤ bound.length) (stop : Stops isBlank rest)
    (noComment : ¬ ['<', '!', '-', '-'] <+: rest) :
    skipTriviaWithin bound ⟨position, gap ++ rest⟩ = .ok ⟨position.advance gap, rest⟩ := by
  induction trivia generalizing position bound with
  | @blanks gap isGap =>
    have past := skipBlanks_append position isGap stop
    have plain : atComment ⟨position.advance gap, rest⟩ = false := atComment_eq_false_iff.mpr noComment
    cases bound with
    | nil => rw [skipTriviaWithin, past]
    | cons b bound => simp only [skipTriviaWithin, past, plain, Bool.false_eq_true, ↓reduceIte]
  | @comment gap comment later isGap isComment more ih =>
    obtain ⟨body, start⟩ := IsComment.exists_eq isComment
    have here : Stops isBlank (comment ++ (later ++ rest)) := by
      rw [start]
      exact Stops.cons (by decide) _
    have past := skipBlanks_append position isGap here
    have filled : 0 < comment.length := by simp [start]
    cases bound with
    | nil =>
      simp only [List.length_append, List.length_nil] at enough
      omega
    | cons b bound =>
      have room : later.length ≤ bound.length := by
        simp only [List.length_append, List.length_cons] at enough
        omega
      rw [List.append_assoc, List.append_assoc, skipTriviaWithin, past, atComment_append _ isComment,
        skipComment_append _ isComment]
      simp only [↓reduceIte, Bind.bind, Except.bind]
      rw [ih _ room]
      simp only [Position.advance_append, List.append_assoc]

theorem skipTrivia_append {gap : List Char} (trivia : Trivia gap) (stop : Stops isBlank rest)
    (noComment : ¬ ['<', '!', '-', '-'] <+: rest) :
    skipTrivia ⟨position, gap ++ rest⟩ = .ok ⟨position.advance gap, rest⟩ :=
  skipTriviaWithin_append position trivia (by simp) stop noComment

theorem readValue_append {value : String} (quoted : QuotedValue value text) :
    readValue ⟨position, text ++ rest⟩ = .ok (value, ⟨position.advance text, rest⟩) := by
  obtain ⟨kind, spelled⟩ := quoted
  rename_i quote raw
  have absent : quote ∉ raw := by
    refine Entity.not_mem_of_spells spelled (by simp) ?_ ?_ <;> rcases kind with rfl | rfl <;> decide
  have cut : Text.cutAt? quote (raw ++ quote :: rest) = some (raw, rest) :=
    Text.cutAt?_eq_some_iff.mpr ⟨rfl, absent⟩
  have past : Cursor.skip ⟨position, quote :: raw ++ [quote] ++ rest⟩ (raw.length + 2) =
      ⟨position.advance (quote :: raw ++ [quote]), rest⟩ := skip_append position (by simp)
  simp only [List.cons_append, List.append_assoc, List.nil_append] at past ⊢
  simp only [readValue, kind, ↓reduceIte, cut, past, Entity.decode_of_spells spelled,
    String.ofList_toList]

theorem readOptionalValue_none (follow : ∀ c ∈ (rest.dropWhile isBlank).head?, c ≠ '=') :
    readOptionalValue ⟨position, rest⟩ = .ok (none, Cursor.skipBlanks ⟨position, rest⟩) := by
  have past : (Cursor.skipBlanks ⟨position, rest⟩).rest = rest.dropWhile isBlank := rfl
  unfold readOptionalValue
  split
  · rename_i more here
    rw [past] at here
    exact absurd rfl (follow '=' (by simp [here]))
  · rfl

theorem readOptionalValue_some {value : String} {before after : List Char} (gap : Blanks before)
    (gapAfter : Blanks after) (quoted : QuotedValue value text) :
    readOptionalValue ⟨position, before ++ '=' :: (after ++ text) ++ rest⟩ =
      .ok (some value, ⟨position.advance (before ++ '=' :: (after ++ text)), rest⟩) := by
  have sign : Stops isBlank ('=' :: (after ++ (text ++ rest))) := Stops.cons (by decide) _
  have quoteNext : Stops isBlank (text ++ rest) := by
    obtain ⟨kind, _⟩ := quoted
    rcases kind with rfl | rfl <;> exact Stops.cons (by decide) _
  have past := skipBlanks_append position gap sign
  have pastSign := skipBlanks_append ((position.advance before).after '=') gapAfter quoteNext
  simp only [List.append_assoc, List.cons_append]
  simp only [readOptionalValue, past]
  have behind : Cursor.skip ⟨position.advance before, '=' :: (after ++ (text ++ rest))⟩ 1 =
      ⟨(position.advance before).after '=', after ++ (text ++ rest)⟩ := rfl
  rw [behind, pastSign, readValue_append _ quoted]
  simp [Bind.bind, Except.bind, Pure.pure, Except.pure, Position.advance_append]

theorem isAttributePart_writtenName {given : Attribute} (wellFormed : given.WellFormed) :
    ∀ c ∈ given.writtenName, isAttributePart c = true := by
  intro c hc
  unfold Attribute.writtenName at hc
  split at hc
  · rcases List.mem_cons.mp hc with rfl | hc
    · decide
    · exact wellFormed.parts c hc
  · exact wellFormed.parts c hc

theorem readAttribute_of_value {given : Attribute} {later : Cursor} (wellFormed : given.WellFormed)
    (stop : Stops isAttributePart rest)
    (value : readOptionalValue ⟨position.advance given.writtenName, rest⟩ = .ok (given.value, later)) :
    readAttribute ⟨position, given.writtenName ++ rest⟩ = .ok (given, later) := by
  have inside := isAttributePart_writtenName wellFormed
  rw [readAttribute, run_append position inside stop, skipWhile_append position inside stop, value]
  obtain ⟨c, name, hn⟩ := List.exists_cons_of_ne_nil wellFormed.filled
  have back : String.ofList (c :: name) = given.name := by rw [← hn, String.ofList_toList]
  cases hb : given.binding with
  | true =>
    have shape : given.writtenName = ':' :: c :: name := by simp [Attribute.writtenName, hb, hn]
    simp only [shape, Bind.bind, Except.bind, Pure.pure, Except.pure, back, ← hb]
  | false =>
    have shape : given.writtenName = c :: name := by simp [Attribute.writtenName, hb, hn]
    have noColon : c ≠ ':' := by
      rintro rfl
      have colon := wellFormed.colon (by simp [hn])
      simp [hb] at colon
    rw [shape]
    split
    · contradiction
    · simp_all
    · simp_all
    · rename_i chars _ _ _
      simp only [Bind.bind, Except.bind, Pure.pure, Except.pure, back, ← hb]

/-- An attribute is read back. Behind one without a value the blanks are read as well, in search of
an equals sign. -/
theorem readAttribute_append {given : Attribute} (wellFormed : given.WellFormed)
    (written : given.Written text) (stop : Stops isAttributePart rest)
    (follow : ∀ c ∈ (rest.dropWhile isBlank).head?, c ≠ '=') :
    ∃ later, readAttribute ⟨position, text ++ rest⟩ = .ok (given, later) ∧
      later.skipBlanks = Cursor.skipBlanks ⟨position.advance text, rest⟩ := by
  cases written with
  | bare absent =>
    refine ⟨_, readAttribute_of_value position wellFormed stop ?_, skipBlanks_skipBlanks _⟩
    rw [readOptionalValue_none _ follow, absent]
  | @valued value before after quoted present gap gapAfter isQuoted =>
    have value : readOptionalValue ⟨position.advance given.writtenName,
        before ++ '=' :: (after ++ quoted) ++ rest⟩ = .ok (given.value, _) :=
      present ▸ readOptionalValue_some _ gap gapAfter isQuoted
    have sign : Stops isAttributePart (before ++ '=' :: (after ++ quoted) ++ rest) := by
      rw [List.append_assoc]
      exact stops_append_of_blanks isAttributePart_of_isBlank gap (Stops.cons (by decide) _)
    have read := readAttribute_of_value position wellFormed sign value
    rw [← List.append_assoc] at read
    exact ⟨_, read, by rw [Position.advance_append position]⟩

def EndsTag (rest : List Char) : Prop :=
  (∃ more, rest = '>' :: more) ∨ ∃ more, rest = '/' :: '>' :: more

theorem EndsTag.stops {keep : Char → Bool} (tagEnd : EndsTag rest) (angle : keep '>' = false)
    (slash : keep '/' = false) : Stops keep rest := by
  rcases tagEnd with ⟨more, rfl⟩ | ⟨more, rfl⟩
  · exact Stops.cons angle _
  · exact Stops.cons slash _

theorem writtenName_head {given : Attribute} (wellFormed : given.WellFormed) :
    ∃ c more, given.writtenName = c :: more ∧ isAttributePart c = true := by
  obtain ⟨c, name, hn⟩ := List.exists_cons_of_ne_nil wellFormed.filled
  have inside := isAttributePart_writtenName wellFormed
  cases hb : given.binding with
  | true =>
    have shape : given.writtenName = ':' :: c :: name := by simp [Attribute.writtenName, hb, hn]
    exact ⟨_, _, shape, by decide⟩
  | false =>
    have shape : given.writtenName = c :: name := by simp [Attribute.writtenName, hb, hn]
    exact ⟨_, _, shape, inside c (by simp [shape])⟩

theorem written_head {given : Attribute} (wellFormed : given.WellFormed)
    (written : given.Written text) : ∃ c more, text = c :: more ∧ isAttributePart c = true := by
  obtain ⟨c, more, shape, part⟩ := writtenName_head wellFormed
  cases written with
  | bare absent => exact ⟨c, more, shape, part⟩
  | valued present gap gapAfter quoted => exact ⟨c, _, by rw [shape, List.cons_append], part⟩

theorem attributes_follow {given : List Attribute} {raw : List Char}
    (wellFormed : ∀ a ∈ given, a.WellFormed) (written : AttributesWritten given raw)
    (tagEnd : EndsTag rest) :
    Stops isAttributePart (raw ++ rest) ∧
      ∀ c ∈ ((raw ++ rest).dropWhile isBlank).head?, c ≠ '=' := by
  cases written with
  | nil isGap =>
    refine ⟨stops_append_of_blanks isAttributePart_of_isBlank isGap (tagEnd.stops (by decide) (by decide)), ?_⟩
    rw [Stops.dropWhile_append isGap (tagEnd.stops (by decide) (by decide))]
    rcases tagEnd with ⟨more, rfl⟩ | ⟨more, rfl⟩ <;> simp
  | @cons first others gap text more apart isGap isFirst isMore =>
    obtain ⟨c, body, rfl, part⟩ := written_head (wellFormed first (by simp)) isFirst
    have notBlank := isBlank_of_isAttributePart part
    obtain ⟨b, gap, rfl⟩ := List.exists_cons_of_ne_nil apart
    have blank := isGap b (by simp)
    refine ⟨Stops.cons (by simp [isAttributePart, blank]) _, ?_⟩
    have here : Stops isBlank (c :: body ++ more ++ rest) := Stops.cons notBlank _
    rw [List.append_assoc, Stops.dropWhile_append isGap here]
    rintro d hd rfl
    simp only [List.cons_append, List.head?_cons, Option.mem_def, Option.some.injEq] at hd
    subst hd
    simp [isAttributePart] at part

theorem readAttributesWithin_congr {bound : List Char} {cursor other : Cursor}
    (same : cursor.skipBlanks = other.skipBlanks) :
    readAttributesWithin bound cursor = readAttributesWithin bound other := by
  cases bound <;> simp only [readAttributesWithin, same]

theorem readAttributesWithin_end {bound : List Char} {cursor : Cursor} (filled : 0 < bound.length)
    (tagEnd : EndsTag cursor.skipBlanks.rest) :
    readAttributesWithin bound cursor = .ok ([], cursor.skipBlanks) := by
  obtain ⟨b, bound, rfl⟩ := List.exists_cons_of_length_pos filled
  rcases tagEnd with ⟨more, h⟩ | ⟨more, h⟩ <;> simp only [readAttributesWithin, h]

theorem readAttributesWithin_cons {b c : Char} {bound more : List Char} {cursor : Cursor}
    (here : cursor.skipBlanks.rest = c :: more) (part : isAttributePart c = true) :
    readAttributesWithin (b :: bound) cursor = do
      let (first, later) ← readAttribute cursor.skipBlanks
      let (others, last) ← readAttributesWithin bound later
      return (first :: others, last) := by
  simp only [readAttributesWithin, here]
  split
  · contradiction
  · simp_all [isAttributePart]
  · simp_all [isAttributePart]
  · rfl

theorem readAttributesWithin_append {given : List Attribute} {bound raw : List Char}
    (wellFormed : ∀ a ∈ given, a.WellFormed) (written : AttributesWritten given raw)
    (enough : given.length < bound.length) (tagEnd : EndsTag rest) :
    readAttributesWithin bound ⟨position, raw ++ rest⟩ = .ok (given, ⟨position.advance raw, rest⟩) := by
  induction written generalizing position bound with
  | nil isGap =>
    have past := skipBlanks_append position isGap (tagEnd.stops (by decide) (by decide))
    rw [readAttributesWithin_end (by omega) (by rw [past]; exact tagEnd), past]
  | @cons first others gap text more apart isGap isFirst isMore ih =>
    obtain ⟨b, bound, rfl⟩ := List.exists_cons_of_length_pos (by omega : 0 < bound.length)
    have firstWellFormed := wellFormed first (by simp)
    have othersWellFormed : ∀ a ∈ others, a.WellFormed := fun a ha => wellFormed a (by simp [ha])
    obtain ⟨c, body, shape, part⟩ := written_head firstWellFormed isFirst
    have here : Stops isBlank (text ++ (more ++ rest)) := by
      rw [shape]
      exact Stops.cons (isBlank_of_isAttributePart part) _
    have past := skipBlanks_append position isGap here
    obtain ⟨stop, follow⟩ := attributes_follow othersWellFormed isMore tagEnd
    obtain ⟨later, read, next⟩ := readAttribute_append (position.advance gap) firstWellFormed isFirst
      stop follow
    rw [List.append_assoc, List.append_assoc]
    rw [readAttributesWithin_cons (by rw [past, shape]; rfl) part, past, read]
    simp only [Bind.bind, Except.bind, Pure.pure, Except.pure]
    rw [readAttributesWithin_congr next, ih _ othersWellFormed (by simpa using enough)]
    simp only [Position.advance_append]

theorem length_le_of_attributesWritten {given : List Attribute} {raw : List Char}
    (written : AttributesWritten given raw) : given.length ≤ raw.length := by
  induction written with
  | nil isGap => simp
  | cons apart isGap isFirst isMore ih =>
    have gap := List.length_pos_iff.mpr apart
    simp only [List.length_cons, List.length_append]
    omega

theorem readAttributes_append {given : List Attribute} {raw : List Char}
    (wellFormed : ∀ a ∈ given, a.WellFormed) (written : AttributesWritten given raw)
    (tagEnd : EndsTag rest) :
    readAttributes ⟨position, raw ++ rest⟩ = .ok (given, ⟨position.advance raw, rest⟩) := by
  refine readAttributesWithin_append position wellFormed written ?_ tagEnd
  have size := length_le_of_attributesWritten written
  rcases tagEnd with ⟨more, rfl⟩ | ⟨more, rfl⟩ <;> simp <;> omega

end Cursor

end UiMarkup.Reader
