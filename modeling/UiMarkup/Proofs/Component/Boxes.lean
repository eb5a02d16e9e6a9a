import UiMarkup.Proofs.Component.StyleBlocks
import UiMarkup.Proofs.Decimal.Numerals

namespace UiMarkup.Style

structure IsLength (text : String) (length : Value) : Prop where
  solid : ∀ c ∈ text.toList, Text.isBlank c = false
  read : readLength text.toList = .ok length

section Lengths

theorem parts_of_readLength {text : List Char} {length : Value} (h : readLength text = .ok length) :
    ∀ c ∈ text, Text.isBlank c = true ∨ Decimal.isNumberPart c = true := by
  unfold readLength at h
  simp only at h
  split at h
  · rename_i x read
    apply Text.blank_or_of_trim
    generalize Text.trim text = given at *
    have digits : ∀ c ∈ (Text.beforeEnd? ['p', 'x'] given).getD given,
        Text.isBlank c = true ∨ Decimal.isNumberPart c = true := by
      apply Text.blank_or_of_trim
      intro c member
      exact .inr (Decimal.isNumberPart_of_readFinite? read c member)
    cases found : Text.beforeEnd? ['p', 'x'] given with
    | none =>
      rw [found] at digits
      exact digits
    | some before =>
      rw [found] at digits
      rw [Text.eq_of_beforeEnd? found, List.forall_mem_append]
      refine ⟨digits, ?_⟩
      simp [Decimal.isNumberPart]
  · cases h

theorem IsLength.notMem {text : String} {length : Value} (isLength : IsLength text length) {c : Char}
    (outside : Decimal.isNumberPart c = false) : c ∉ text.toList := by
  intro member
  rcases parts_of_readLength isLength.read c member with blank | number
  · rw [isLength.solid c member] at blank
    cases blank
  · rw [outside] at number
    cases number

theorem IsLength.isWord {text : String} {length : Value} (isLength : IsLength text length) :
    Text.IsWord text.toList := by
  refine ⟨?_, isLength.solid⟩
  intro empty
  have read := isLength.read
  rw [empty] at read
  cases read

theorem exists_isLength (text : String) (solid : (text.toList.all fun c => !Text.isBlank c) = true)
    (known : (readLength text.toList).toOption.isSome = true) : ∃ length, IsLength text length := by
  cases read : readLength text.toList with
  | error fault =>
    rw [read] at known
    cases known
  | ok length =>
    refine ⟨length, ?_, read⟩
    intro c member
    have filled := List.all_eq_true.mp solid c member
    simpa using filled

end Lengths

section Declarations

def isName (name : String) : Bool :=
  !name.toList.isEmpty && Text.lowered name.toList == name.toList &&
    name.toList.all fun c => !Text.isBlank c && c != ':' && c != ';'

theorem isName_of_mem_targets : ∀ entry ∈ targets, isName entry.1 = true := by
  have table : (targets.all fun entry => isName entry.1) = true := by decide +kernel
  exact List.all_eq_true.mp table

def assigned (property : String) (value : List Char) : Except Error Properties :=
  if value.isEmpty then .error (.styleValue property .missingValue)
  else translate property (String.ofList value)

variable {name : String} {target : Target}

theorem isName_of_lookup (found : targets.lookup name = some target) : isName name = true := by
  have member := mem_of_lookup found
  exact isName_of_mem_targets (name, target) member

theorem spelling_of_isName (isName : isName name = true) :
    Text.IsWord name.toList ∧ Text.lowered name.toList = name.toList ∧ ':' ∉ name.toList ∧
      ';' ∉ name.toList := by
  simp only [Style.isName, Bool.and_eq_true, Bool.not_eq_true', List.isEmpty_eq_false_iff, beq_iff_eq,
    List.all_eq_true, bne_iff_ne] at isName
  obtain ⟨⟨filled, low⟩, letters⟩ := isName
  refine ⟨⟨filled, fun c member => (letters c member).1.1⟩, low, ?_, ?_⟩
  · exact fun member => (letters _ member).1.2 rfl
  · exact fun member => (letters _ member).2 rfl

theorem trim_declaration (isName : isName name = true) {lead : List Char}
    (isLead : ∀ c ∈ lead, Text.isBlank c = true) (value : List Char) :
    Text.trim (lead ++ (name.toList ++ ':' :: value)) = name.toList ++ ':' :: Text.trimEnd value := by
  obtain ⟨isWord, _⟩ := spelling_of_isName isName
  have start : Text.trimStart (lead ++ (name.toList ++ ':' :: value)) = name.toList ++ ':' :: value := by
    apply Stops.dropWhile_append isLead
    intro c first
    rw [List.head?_append_of_ne_nil _ isWord.1] at first
    exact isWord.2 c (List.mem_of_mem_head? first)
  have front : Stops Text.isBlank (name.toList ++ [':']).reverse := by
    rw [List.reverse_concat]
    exact Stops.cons (by decide) _
  have shape (rest : List Char) : name.toList ++ ':' :: rest = name.toList ++ [':'] ++ rest := by simp
  rw [Text.trim, start, shape, Text.trimEnd_append front, ← shape]

theorem readDeclaration_of_isName (isName : isName name = true) (value : List Char) :
    readDeclaration (name.toList ++ ':' :: value) = assigned name (withoutImportance (Text.trim value)) := by
  obtain ⟨isWord, low, noColon, _⟩ := spelling_of_isName isName
  have cut : Text.cutAt? ':' (name.toList ++ ':' :: value) = some (name.toList, value) :=
    Text.cutAt?_eq_some_iff.mpr ⟨rfl, noColon⟩
  unfold readDeclaration assigned
  rw [cut]
  simp only
  rw [Text.trim_of_isWord isWord, low, String.ofList_toList]

theorem assigned_of_lookup (found : targets.lookup name = some target) {value : List Char}
    (filled : value ≠ []) :
    assigned name value =
      ((target.kind.read (String.ofList value)).map target.assign).mapError (.styleValue name) := by
  simp only [assigned, translate, found, List.isEmpty_eq_false_iff.mpr filled, Bool.false_eq_true,
    ↓reduceIte]
  cases target.kind.read (String.ofList value) <;> rfl

theorem noLead : ∀ c ∈ "".toList, Text.isBlank c = true := by
  simp

theorem parse_declaration (found : targets.lookup name = some target) {lead value : String}
    (isLead : ∀ c ∈ lead.toList, Text.isBlank c = true) (single : ';' ∉ value.toList) :
    parse (lead ++ name ++ ": " ++ value) = assigned name (withoutImportance (Text.trim value.toList)) := by
  have isName := isName_of_lookup found
  obtain ⟨_, _, _, inDeclaration⟩ := spelling_of_isName isName
  have outside : ';' ∉ lead.toList := fun member => absurd (isLead _ member) (by decide)
  have written : (lead ++ name ++ ": " ++ value).toList =
      lead.toList ++ (name.toList ++ ':' :: ' ' :: value.toList) := by
    simp
  have whole : Text.splitWhere (· == ';') (lead ++ name ++ ": " ++ value).toList =
      [(lead ++ name ++ ": " ++ value).toList] := by
    apply Text.splitWhere_of_keep
    intro c member
    rw [beq_eq_false_iff_ne]
    rintro rfl
    simp [written, outside, inDeclaration, single] at member
  have filled : (name.toList ++ ':' :: Text.trimEnd (' ' :: value.toList)).isEmpty = false := by simp
  rw [parse, whole, readDeclarations, written, trim_declaration isName isLead]
  simp only [filled]
  rw [readDeclaration_of_isName isName, Text.trim_trimEnd, Text.trim_cons_blank Text.isBlank_space]
  by_cases missing : withoutImportance (Text.trim value.toList) = []
  · rw [missing]
    rfl
  · rw [assigned_of_lookup found missing]
    cases target.kind.read (String.ofList (withoutImportance (Text.trim value.toList))) with
    | error fault => rfl
    | ok given =>
      have names : (Fields.keys (target.assign given)).Nodup := by
        rw [keys_assign]
        exact List.nodup_singleton _
      show Except.ok (Properties.merge [] (target.assign given)) = _
      rw [Properties.nil_merge names]
      rfl

end Declarations

section Values

theorem withoutImportance_of_notMem {value : List Char} (spaced : Text.SingleSpaced value)
    (unmarked : '!' ∉ value) : withoutImportance value = value := by
  have absent : Text.beforeEnd? "!important".toList value = none := by
    cases found : Text.beforeEnd? "!important".toList value with
    | none => rfl
    | some before =>
      rw [Text.eq_of_beforeEnd? found] at unmarked
      simp at unmarked
  rw [withoutImportance, absent]
  exact spaced.trim_eq

theorem boxOf_eq_error_iff {lengths : List Value} :
    (∃ fault, boxOf lengths = .error fault) ↔ lengths.length = 0 ∨ 4 < lengths.length := by
  unfold boxOf
  split
  · simp
  · simp
  · simp
  · simp
  · rename_i one two three four
    simp only [Except.error.injEq, exists_eq', true_iff]
    match lengths with
    | [] => exact .inl rfl
    | [all] => exact absurd rfl (one all)
    | [upright, across] => exact absurd rfl (two upright across)
    | [top, across, bottom] => exact absurd rfl (three top across bottom)
    | [top, right, bottom, left] => exact absurd rfl (four top right bottom left)
    | _ :: _ :: _ :: _ :: _ :: rest =>
      right
      simp only [List.length_cons]
      omega

theorem read_box_eq_error_iff (value : String) :
    (∃ fault, Kind.box.read value = .error fault) ↔
      (Text.words value.toList).length = 0 ∨ 4 < (Text.words value.toList).length ∨
        ∃ word ∈ Text.words value.toList, ∀ length, readLength word ≠ .ok length := by
  rw [Kind.read]
  generalize Text.words value.toList = words
  cases read : words.mapM readLength with
  | error fault =>
    obtain ⟨word, member, failed⟩ := exists_error_of_mapM read
    have refused : ∀ length, readLength word ≠ .ok length := by simp [failed]
    constructor
    · intro _
      exact .inr (.inr ⟨word, member, refused⟩)
    · intro _
      exact ⟨fault, rfl⟩
  | ok lengths =>
    have each := forall₂_of_mapM read
    have known : ¬ ∃ word ∈ words, ∀ length, readLength word ≠ .ok length := by
      rintro ⟨word, member, refused⟩
      obtain ⟨length, isLength⟩ := exists_of_forall₂ each word member
      exact refused length isLength
    rw [ok_bind, boxOf_eq_error_iff, ← each.length_eq]
    simp only [known, or_false]

end Values

/-- A property for the four sides of a box, and the properties for one side each. -/
structure Shorthand where
  name : String
  property : String
  left : String
  top : String
  right : String
  bottom : String
  isBox : targets.lookup name = some (.whole property .box)
  isLeft : targets.lookup left = some (.part property "Left" .length)
  isTop : targets.lookup top = some (.part property "Top" .length)
  isRight : targets.lookup right = some (.part property "Right" .length)
  isBottom : targets.lookup bottom = some (.part property "Bottom" .length)

namespace Shorthand

def margin : Shorthand :=
  ⟨"margin", "Anchor", "left", "top", "right", "bottom", rfl, rfl, rfl, rfl, rfl⟩

def padding : Shorthand :=
  ⟨"padding", "Padding", "padding-left", "padding-top", "padding-right", "padding-bottom",
    rfl, rfl, rfl, rfl, rfl⟩

def written (box : Shorthand) (lengths : List String) : String :=
  box.name ++ ": " ++ String.intercalate " " lengths

def longhands (box : Shorthand) (top right bottom left : String) : String :=
  String.intercalate "; " [box.left ++ ": " ++ left, box.top ++ ": " ++ top, box.right ++ ": " ++ right,
    box.bottom ++ ": " ++ bottom]

theorem parse_value (box : Shorthand) {value : String} (single : ';' ∉ value.toList) :
    parse (box.name ++ ": " ++ value) =
      assigned box.name (withoutImportance (Text.trim value.toList)) := by
  have block := parse_declaration box.isBox noLead single
  rwa [String.empty_append] at block

theorem parse_written (box : Shorthand) {texts : List String} {lengths : List Value}
    (filled : texts ≠ []) (each : List.Forall₂ IsLength texts lengths) :
    parse (box.written texts) =
      ((boxOf lengths).map fun value => [(box.property, value)]).mapError (.styleValue box.name) := by
  have known : ∀ word ∈ texts.map String.toList, Text.IsWord word ∧ ';' ∉ word ∧ '!' ∉ word := by
    rw [List.forall_mem_map]
    intro text member
    obtain ⟨length, isLength⟩ := exists_of_forall₂ each text member
    exact ⟨isLength.isWord, isLength.notMem (by decide), isLength.notMem (by decide)⟩
  have words : ∀ word ∈ texts.map String.toList, Text.IsWord word :=
    fun word member => (known word member).1
  have value : (String.intercalate " " texts).toList = Text.joinWith [' '] (texts.map String.toList) :=
    Text.toList_intercalate " " texts
  have single : ';' ∉ (String.intercalate " " texts).toList := by
    rw [value]
    exact Text.not_mem_joinWith (by decide) fun word member => (known word member).2.1
  have unmarked : '!' ∉ Text.joinWith [' '] (texts.map String.toList) :=
    Text.not_mem_joinWith (by decide) fun word member => (known word member).2.2
  have spaced := Text.singleSpaced_joinWith words
  have given : Text.joinWith [' '] (texts.map String.toList) ≠ [] := by
    obtain ⟨first, rest, rfl⟩ := List.exists_cons_of_ne_nil filled
    exact Text.joinWith_ne_nil (words _ List.mem_cons_self).1 _
  have read : (texts.map String.toList).mapM readLength = .ok lengths := by
    apply mapM_of_forall₂
    rw [List.forall₂_map_left_iff]
    exact each.imp fun text length isLength => isLength.read
  rw [written, box.parse_value single, value, spaced.trim_eq, withoutImportance_of_notMem spaced unmarked,
    assigned_of_lookup box.isBox given]
  simp only [Target.whole, Kind.read, String.toList_ofList, Text.words_joinWith words, read, ok_bind]
  rfl

theorem parse_four (box : Shorthand) {t r b l : String} {top right bottom left : Value}
    (isTop : IsLength t top) (isRight : IsLength r right) (isBottom : IsLength b bottom)
    (isLeft : IsLength l left) :
    parse (box.written [t, r, b, l]) = .ok [(box.property, sides top right bottom left)] :=
  box.parse_written (List.cons_ne_nil _ _)
    (.cons isTop (.cons isRight (.cons isBottom (.cons isLeft .nil))))

theorem parse_side {name property field text lead : String} {length : Value}
    (found : targets.lookup name = some (.part property field .length))
    (isLead : ∀ c ∈ lead.toList, Text.isBlank c = true) (isLength : IsLength text length) :
    parse (lead ++ name ++ ": " ++ text) = .ok [(property, .object [(field, length)])] := by
  have spaced := Text.singleSpaced_of_isWord isLength.isWord
  rw [parse_declaration found isLead (isLength.notMem (by decide)), spaced.trim_eq,
    withoutImportance_of_notMem spaced (isLength.notMem (by decide)),
    assigned_of_lookup found isLength.isWord.1]
  simp only [Target.part, Kind.read, String.toList_ofList, isLength.read]
  rfl

theorem parse_append_side {block name property field text : String} {fields : List (String × Value)}
    {length : Value} (given : parse block = .ok [(property, .object fields)])
    (found : targets.lookup name = some (.part property field .length)) (isLength : IsLength text length)
    (fresh : field ∉ Fields.keys fields) :
    parse (block ++ "; " ++ (name ++ ": " ++ text)) =
      .ok [(property, .object (fields ++ [(field, length)]))] := by
  have space : ∀ c ∈ " ".toList, Text.isBlank c = true := by simp [Text.isBlank_space]
  have side := parse_side found space isLength
  have cut : block ++ "; " ++ (name ++ ": " ++ text) = block ++ ";" ++ (" " ++ name ++ ": " ++ text) := by
    apply String.toList_injective
    simp
  have sides : Value.mergeFields fields [(field, length)] = fields ++ [(field, length)] := by
    apply Value.mergeFields_of_disjoint
    · exact List.nodup_singleton _
    · simpa [Fields.keys] using fresh
  rw [cut, parse_append, given, side, ok_bind, ok_bind, ← sides, ← Value.onto_object]
  simp only [Properties.merge, Value.mergeFields, Fields.value?, Fields.put, ↓reduceIte]
  rfl

theorem parse_longhands (box : Shorthand) {t r b l : String} {top right bottom left : Value}
    (isTop : IsLength t top) (isRight : IsLength r right) (isBottom : IsLength b bottom)
    (isLeft : IsLength l left) :
    parse (box.longhands t r b l) = .ok [(box.property, sides top right bottom left)] := by
  have one : parse (box.left ++ ": " ++ l) = .ok [(box.property, .object [("Left", left)])] := by
    have side := parse_side box.isLeft noLead isLeft
    rwa [String.empty_append] at side
  have two := parse_append_side one box.isTop isTop (by simp [Fields.keys])
  have three := parse_append_side two box.isRight isRight (by simp [Fields.keys])
  exact parse_append_side three box.isBottom isBottom (by simp [Fields.keys])

end Shorthand

def parts (value : String) : List (List Char) :=
  Text.words (withoutImportance (Text.trim value.toList))

/-- For margins and paddings alike: the declaration of a box sets what the declarations of its sides
set, its shorter forms stand for the one with four lengths, and it is refused exactly if it does not
consist of one to four lengths. -/
theorem box_shorthands (box : Shorthand) :
    (∀ {t r b l : String} {top right bottom left : Value},
      IsLength t top → IsLength r right → IsLength b bottom → IsLength l left →
      parse (box.written [t, r, b, l]) = .ok [(box.property, sides top right bottom left)] ∧
      parse (box.written [t, r, b, l]) = parse (box.longhands t r b l) ∧
      parse (box.written [t]) = parse (box.written [t, t, t, t]) ∧
      parse (box.written [t, r]) = parse (box.written [t, r, t, r]) ∧
      parse (box.written [t, r, b]) = parse (box.written [t, r, b, r])) ∧
    ∀ value : String, ';' ∉ value.toList →
      ((∃ fault, parse (box.name ++ ": " ++ value) = .error (.styleValue box.name fault)) ↔
        (parts value).length = 0 ∨ 4 < (parts value).length ∨
          ∃ part ∈ parts value, ∀ length, readLength part ≠ .ok length) := by
  constructor
  · intro t r b l top right bottom left isTop isRight isBottom isLeft
    have one : parse (box.written [t]) = .ok [(box.property, sides top top top top)] :=
      box.parse_written (List.cons_ne_nil _ _) (.cons isTop .nil)
    have two : parse (box.written [t, r]) = .ok [(box.property, sides top right top right)] :=
      box.parse_written (List.cons_ne_nil _ _) (.cons isTop (.cons isRight .nil))
    have three : parse (box.written [t, r, b]) = .ok [(box.property, sides top right bottom right)] :=
      box.parse_written (List.cons_ne_nil _ _) (.cons isTop (.cons isRight (.cons isBottom .nil)))
    rw [one, two, three, box.parse_longhands isTop isRight isBottom isLeft,
      box.parse_four isTop isRight isBottom isLeft, box.parse_four isTop isTop isTop isTop,
      box.parse_four isTop isRight isTop isRight, box.parse_four isTop isRight isBottom isRight]
    exact ⟨rfl, rfl, rfl, rfl, rfl⟩
  · intro value single
    rw [box.parse_value single, parts]
    generalize withoutImportance (Text.trim value.toList) = given
    by_cases missing : given = []
    · subst missing
      exact ⟨fun _ => .inl rfl, fun _ => ⟨.missingValue, rfl⟩⟩
    · have read := read_box_eq_error_iff (String.ofList given)
      rw [String.toList_ofList] at read
      rw [assigned_of_lookup box.isBox missing, ← read]
      show (∃ fault, ((Kind.box.read (String.ofList given)).map _).mapError _ = _) ↔ _
      cases Kind.box.read (String.ofList given) <;> simp [Except.map, Except.mapError]

theorem box_shorthands_marked :
    parse "margin: 1px +2 3e0 .5px" = parse "left: .5px; top: 1px; right: +2; bottom: 3e0" ∧
    parse "padding: 1px +2" = parse "padding: 1px +2 1px +2" ∧
    (∃ fault, parse "margin: 1 2 3 4 5 !important" = .error (.styleValue "margin" fault)) ∧
    (∃ fault, parse "padding:  !important" = .error (.styleValue "padding" fault)) ∧
    ∃ fault, parse "padding: 1px 2 px" = .error (.styleValue "padding" fault) := by
  obtain ⟨one, isOne⟩ := exists_isLength "1px" (by decide) (by decide +kernel)
  obtain ⟨two, isTwo⟩ := exists_isLength "+2" (by decide) (by decide +kernel)
  obtain ⟨three, isThree⟩ := exists_isLength "3e0" (by decide) (by decide +kernel)
  obtain ⟨half, isHalf⟩ := exists_isLength ".5px" (by decide) (by decide +kernel)
  have margin := box_shorthands .margin
  have padding := box_shorthands .padding
  refine ⟨(margin.1 isOne isTwo isThree isHalf).2.1,
    (padding.1 isOne isTwo isThree isHalf).2.2.2.1, ?_, ?_, ?_⟩
  · exact (margin.2 "1 2 3 4 5 !important" (by decide)).mpr (.inr (.inl (by decide +kernel)))
  · exact (padding.2 " !important" (by decide)).mpr (.inl (by decide +kernel))
  · refine (padding.2 "1px 2 px" (by decide)).mpr (.inr (.inr ⟨['p', 'x'], by decide +kernel, ?_⟩))
    intro length read
    have refused : (readLength ['p', 'x']).toOption.isSome = false := by decide +kernel
    rw [read] at refused
    cases refused

end UiMarkup.Style
