import Mathlib.Data.String.Basic
import UiMarkup.Proofs.Markup.Outcome

namespace UiMarkup

theorem Text.length_le_utf8Len (text : List Char) : text.length ≤ String.utf8Len text := by
  induction text with
  | nil => simp
  | cons c text ih =>
    have size := c.utf8Size_pos
    rw [String.utf8Len_cons, List.length_cons]
    omega

namespace Cursor

variable {source : String} {cursor later : Cursor}

def Within (source : String) (cursor : Cursor) : Prop :=
  cursor.rest <:+ source.toList

def offset (source : String) (cursor : Cursor) : Nat :=
  source.utf8ByteSize - String.utf8Len cursor.rest

def Advances (source : String) (count : Nat) (cursor later : Cursor) : Prop :=
  later.Within source ∧ cursor.offset source + count ≤ later.offset source

theorem within_ofText (source : String) : (ofText source.toList).Within source :=
  List.suffix_refl _

theorem Within.utf8Len_le (within : cursor.Within source) :
    String.utf8Len cursor.rest ≤ source.utf8ByteSize := by
  have size := String.utf8Len_le_of_suffix within
  rw [String.utf8Len_toList] at size
  exact size

theorem ReadsAtLeast.advances {count : Nat} (reads : ReadsAtLeast count cursor later)
    (within : cursor.Within source) : cursor.Advances source count later := by
  have whole := within.utf8Len_le
  obtain ⟨text, size, split, _⟩ := reads
  have bytes := Text.length_le_utf8Len text
  have sum : String.utf8Len cursor.rest = String.utf8Len text + String.utf8Len later.rest := by
    rw [split, String.utf8Len_append]
  constructor
  · have behind : later.rest <:+ cursor.rest := ⟨text, split.symm⟩
    exact behind.trans within
  · unfold offset
    omega

theorem isValid_iff_offset {place : String.Pos.Raw} :
    place.IsValid source ↔ ∃ cursor : Cursor, cursor.Within source ∧ cursor.offset source = place.byteIdx := by
  rw [String.Pos.Raw.isValid_iff_exists_append]
  constructor
  · rintro ⟨before, after, rfl, rfl⟩
    refine ⟨⟨.start, after.toList⟩, ⟨before.toList, String.toList_append.symm⟩, ?_⟩
    rw [offset, String.utf8Len_toList, String.utf8ByteSize_append, Nat.add_sub_cancel]
    rfl
  · rintro ⟨cursor, ⟨before, whole⟩, here⟩
    have joined : source = String.ofList before ++ String.ofList cursor.rest := by
      rw [← String.ofList_append, whole, String.ofList_toList]
    refine ⟨String.ofList before, String.ofList cursor.rest, joined, ?_⟩
    have size : source.utf8ByteSize = String.utf8Len before + String.utf8Len cursor.rest := by
      rw [joined, String.utf8ByteSize_append, String.utf8ByteSize_ofList, String.utf8ByteSize_ofList]
    rw [offset, size, Nat.add_sub_cancel] at here
    rw [String.Pos.Raw.ext_iff, ← here, String.byteIdx_rawEndPos, String.utf8ByteSize_ofList]

end Cursor

namespace Reader

open Cursor (ReadsAtLeast)

/-- A loop of the reader. A turn fails, ends the loop with a result, or goes on from another state. -/
structure Loop (σ α : Type) where
  turn : σ → Except Error (α ⊕ σ)
  cursor : σ → Cursor

namespace Loop

variable {σ α : Type}

def GoesOn (loop : Loop σ α) (later state : σ) : Prop :=
  loop.turn state = .ok (.inr later)

/-- `run` is what turn after turn of the loop gives. -/
def Computes (loop : Loop σ α) (run : σ → Except Error α) : Prop :=
  ∀ state, run state = loop.turn state >>= Sum.elim .ok run

def Forward (loop : Loop σ α) : Prop :=
  ∀ state later, loop.GoesOn later state → ReadsAtLeast 1 (loop.cursor state) (loop.cursor later)

theorem Forward.wellFounded {loop : Loop σ α} (forward : loop.Forward) : WellFounded loop.GoesOn := by
  apply Subrelation.wf _ (measure fun state => (loop.cursor state).rest.length).wf
  intro later state goesOn
  have size := (forward state later goesOn).length_le
  change (loop.cursor later).rest.length < (loop.cursor state).rest.length
  omega

section Bounded

variable {loop : Loop σ α} (forward : loop.Forward) {within : List Char → σ → Except Error α}
  (step : ∀ b bound state, within (b :: bound) state = loop.turn state >>= Sum.elim .ok (within bound))
  (last : ∀ bound state, (loop.cursor state).rest = [] → within bound state = within [] state)

include forward step last

/-- A bound on the turns that is as long as the rest of the text is never reached. -/
theorem Forward.bound_congr {bound other : List Char} {state : σ}
    (enough : (loop.cursor state).rest.length ≤ bound.length)
    (alsoEnough : (loop.cursor state).rest.length ≤ other.length) :
    within bound state = within other state := by
  induction bound generalizing other state with
  | nil => exact (last other state (List.length_eq_zero_iff.mp (Nat.le_zero.mp enough))).symm
  | cons b bound ih =>
    cases other with
    | nil => exact last _ state (List.length_eq_zero_iff.mp (Nat.le_zero.mp alsoEnough))
    | cons c other =>
      rw [step, step]
      rcases turned : loop.turn state with e | ended | later
      · rfl
      · rfl
      · have size := (forward state later turned).length_le
        simp only [List.length_cons] at enough alsoEnough
        exact ih (by omega) (by omega)

theorem Forward.computes : loop.Computes fun state => within (loop.cursor state).rest state := by
  intro state
  have longer : within (loop.cursor state).rest state = within (' ' :: (loop.cursor state).rest) state :=
    forward.bound_congr step last (Nat.le_refl _) (by simp)
  simp only
  rw [longer, step]
  rcases turned : loop.turn state with e | ended | later
  · rfl
  · rfl
  · have size := (forward state later turned).length_le
    exact forward.bound_congr step last (by omega) (Nat.le_refl _)

end Bounded

/-- A loop that moves forward in `source` with each turn that goes on, and so ends; `run` is what it
gives. -/
structure Proceeds (loop : Loop σ α) (source : String) (run : σ → Except Error α) : Prop where
  advances : ∀ state later, (loop.cursor state).Within source → loop.GoesOn later state →
    (loop.cursor state).Advances source 1 (loop.cursor later)
  ends : WellFounded loop.GoesOn
  computes : loop.Computes run

theorem Forward.proceeds {loop : Loop σ α} {run : σ → Except Error α}
    (forward : loop.Forward) (computes : loop.Computes run) (source : String) :
    loop.Proceeds source run := by
  refine ⟨?_, forward.wellFounded, computes⟩
  intro state later within goesOn
  exact (forward state later goesOn).advances within

end Loop

def triviaLoop : Loop Cursor Cursor where
  turn cursor :=
    if atComment cursor.skipBlanks then do
      return .inr (← skipComment cursor.skipBlanks)
    else .ok (.inl cursor.skipBlanks)
  cursor := id

theorem forward_triviaLoop : triviaLoop.Forward := by
  intro cursor later goesOn
  unfold Loop.GoesOn triviaLoop at goesOn
  simp only at goesOn
  split at goesOn
  · obtain ⟨behind, comment, done⟩ := ok_of_bind goesOn
    cases done
    exact ((Cursor.readsAtLeast_skipBlanks cursor).trans (skipComment_ok comment)).weaken (by omega)
  · cases goesOn

theorem skipTriviaWithin_cons (b : Char) (bound : List Char) (cursor : Cursor) :
    skipTriviaWithin (b :: bound) cursor =
      triviaLoop.turn cursor >>= Sum.elim .ok (skipTriviaWithin bound) := by
  rw [skipTriviaWithin, triviaLoop]
  simp only
  split
  · cases skipComment cursor.skipBlanks <;> rfl
  · rfl

theorem skipTriviaWithin_at_end (bound : List Char) (cursor : Cursor) (h : cursor.rest = []) :
    skipTriviaWithin bound cursor = skipTriviaWithin [] cursor := by
  have clear : atComment cursor.skipBlanks = false := by
    simp [atComment, Cursor.skipBlanks, Cursor.skipWhile, h, Text.afterStart?]
  cases bound with
  | nil => rfl
  | cons b bound => simp [skipTriviaWithin, clear]

theorem computes_triviaLoop : triviaLoop.Computes skipTrivia :=
  forward_triviaLoop.computes skipTriviaWithin_cons skipTriviaWithin_at_end

def attributesLoop : Loop (List Attribute × Cursor) (List Attribute × Cursor) where
  turn state :=
    match state.2.skipBlanks.rest with
    | [] => failAt state.2.skipBlanks .endInsideTag
    | '>' :: _ => .ok (.inl (state.1.reverse, state.2.skipBlanks))
    | '/' :: '>' :: _ => .ok (.inl (state.1.reverse, state.2.skipBlanks))
    | _ => do
      let (given, later) ← readAttribute state.2.skipBlanks
      return .inr (given :: state.1, later)
  cursor := Prod.snd

def readAttributesAfterWithin (bound : List Char) (state : List Attribute × Cursor) :
    Except Error (List Attribute × Cursor) := do
  let (given, last) ← readAttributesWithin bound state.2
  return (state.1.reverse ++ given, last)

def readAttributesAfter (state : List Attribute × Cursor) : Except Error (List Attribute × Cursor) := do
  let (given, last) ← readAttributes state.2
  return (state.1.reverse ++ given, last)

theorem forward_attributesLoop : attributesLoop.Forward := by
  intro state later goesOn
  unfold Loop.GoesOn attributesLoop at goesOn
  simp only at goesOn
  split at goesOn
  · cases goesOn
  · cases goesOn
  · cases goesOn
  · obtain ⟨⟨given, behind⟩, read, done⟩ := ok_of_bind goesOn
    cases done
    exact ((Cursor.readsAtLeast_skipBlanks state.2).trans (readAttribute_ok read).2).weaken (by omega)

theorem tag_cases (rest : List Char) :
    rest = [] ∨ EndsTag rest ∨
      ((rest = [] → False) ∧ (∀ tail, rest = '>' :: tail → False) ∧
        ∀ tail, rest = '/' :: '>' :: tail → False) := by
  by_cases empty : rest = []
  · exact .inl empty
  · by_cases tagEnd : EndsTag rest
    · exact .inr (.inl tagEnd)
    · unfold EndsTag at tagEnd
      push Not at tagEnd
      exact .inr (.inr ⟨empty, tagEnd.1, tagEnd.2⟩)

theorem readAttributesAfterWithin_cons (b : Char) (bound : List Char) (state : List Attribute × Cursor) :
    readAttributesAfterWithin (b :: bound) state =
      attributesLoop.turn state >>= Sum.elim .ok (readAttributesAfterWithin bound) := by
  rw [readAttributesAfterWithin]
  rcases tag_cases state.2.skipBlanks.rest with here | (⟨more, here⟩ | ⟨more, here⟩) | ⟨filled, angle, slash⟩
  · simp only [readAttributesWithin, attributesLoop, here]
    rfl
  · simp only [readAttributesWithin, attributesLoop, here, ok_bind, Sum.elim_inl, List.append_nil]
    rfl
  · simp only [readAttributesWithin, attributesLoop, here, ok_bind, Sum.elim_inl, List.append_nil]
    rfl
  · simp only [readAttributesWithin, attributesLoop]
    cases readAttribute state.2.skipBlanks with
    | error e => rfl
    | ok found =>
      simp only [Pure.pure, Except.pure, ok_bind, Sum.elim_inr, readAttributesAfterWithin]
      cases readAttributesWithin bound found.2 with
      | error e => rfl
      | ok others => simp only [ok_bind, List.reverse_cons, List.append_assoc, List.singleton_append]

theorem readAttributesAfterWithin_at_end (bound : List Char) (state : List Attribute × Cursor)
    (h : state.2.rest = []) :
    readAttributesAfterWithin bound state = readAttributesAfterWithin [] state := by
  have ends : state.2.skipBlanks.rest = [] := by
    simp [Cursor.skipBlanks, Cursor.skipWhile, h]
  cases bound with
  | nil => rfl
  | cons b bound => simp only [readAttributesAfterWithin, readAttributesWithin, ends]

theorem computes_attributesLoop : attributesLoop.Computes readAttributesAfter :=
  forward_attributesLoop.computes readAttributesAfterWithin_cons readAttributesAfterWithin_at_end

end Reader

end UiMarkup
