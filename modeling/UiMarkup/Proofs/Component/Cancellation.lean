import UiMarkup.Component.Node
import UiMarkup.Proofs.Text.Runs

namespace UiMarkup

def isTokenChar (c : Char) : Bool :=
  !Text.isBlank c && !(['#', ':', ';', ',', '"', '(', ')', '\x7b', '\x7d'].contains c)

structure IsToken (token : String) : Prop where
  filled : token.toList ≠ []
  chars : ∀ c ∈ token.toList, isTokenChar c = true

instance (token : String) : Decidable (IsToken token) :=
  decidable_of_iff (token.toList ≠ [] ∧ token.toList.all isTokenChar = true)
    ⟨fun h => ⟨h.1, List.all_eq_true.mp h.2⟩, fun h => ⟨h.filled, List.all_eq_true.mpr h.chars⟩⟩

theorem IsToken.head {token : String} (isToken : IsToken token) :
    ∃ c more, token.toList = c :: more ∧ isTokenChar c = true := by
  obtain ⟨c, more, shape⟩ := List.exists_cons_of_ne_nil isToken.filled
  exact ⟨c, more, shape, isToken.chars c (by simp [shape])⟩

theorem IsToken.append_ne_cons {token : String} (isToken : IsToken token) {mark : Char}
    (outside : isTokenChar mark = false) (rest more : List Char) :
    token.toList ++ rest ≠ mark :: more := by
  obtain ⟨c, others, shape, part⟩ := isToken.head
  rw [shape]
  rintro same
  rw [List.cons_append, List.cons.injEq] at same
  rw [same.1, outside] at part
  contradiction

theorem IsToken.cancel {left right : String} {c d : Char} {rest more : List Char}
    (isLeft : IsToken left) (isRight : IsToken right) (mark : isTokenChar c = false)
    (otherMark : isTokenChar d = false)
    (same : left.toList ++ c :: rest = right.toList ++ d :: more) :
    left = right ∧ c = d ∧ rest = more := by
  obtain ⟨chars, tails⟩ := Stops.cancel isLeft.chars isRight.chars (Stops.cons mark _)
    (Stops.cons otherMark _) same
  rw [List.cons.injEq] at tails
  exact ⟨String.toList_injective chars, tails⟩

def isAtomChar (c : Char) : Bool :=
  !(['"', '(', ')', ',', ';', '\n'].contains c)

namespace Value

def isAtom : Value → Bool
  | text _ => false
  | object _ => false
  | _ => true

mutual

/-- Whether a value can be told from what surrounds it. -/
def Legible : Value → Prop
  | text _ => True
  | object fields => FieldsLegible fields
  | atom => ∀ c ∈ atom.render.toList, isAtomChar c = true

def FieldsLegible : List (String × Value) → Prop
  | [] => True
  | (key, value) :: rest => IsToken key ∧ value.Legible ∧ FieldsLegible rest

end

mutual

/-- Equality of values, those that are written as they are by what is written. -/
inductive Agree : Value → Value → Prop
  | text (t : String) : Agree (text t) (text t)
  | atom {left right : Value} (isLeft : left.isAtom = true) (isRight : right.isAtom = true)
      (same : left.render = right.render) : Agree left right
  | object {left right : List (String × Value)} (fields : FieldsAgree left right) :
      Agree (object left) (object right)

inductive FieldsAgree : List (String × Value) → List (String × Value) → Prop
  | nil : FieldsAgree [] []
  | cons {left right : Value} {rest others : List (String × Value)} (key : String)
      (first : Agree left right) (more : FieldsAgree rest others) :
      FieldsAgree ((key, left) :: rest) ((key, right) :: others)

end

theorem Legible.chars {value : Value} (legible : value.Legible) (atom : value.isAtom = true) :
    ∀ c ∈ value.render.toList, isAtomChar c = true := by
  rw [Legible] at legible
  · exact legible
  · rintro t rfl
    simp [isAtom] at atom
  · rintro fields rfl
    simp [isAtom] at atom

def fieldsTail : List (String × Value) → List Char
  | [] => []
  | rest => ',' :: ' ' :: (renderFields rest).toList

theorem toList_renderFields_cons (key : String) (value : Value) (rest : List (String × Value)) :
    (renderFields ((key, value) :: rest)).toList =
      key.toList ++ ':' :: ' ' :: (value.render.toList ++ fieldsTail rest) := by
  cases rest <;> simp [renderFields, fieldsTail]

theorem FieldsAgree.fieldsTail_eq {left right : List (String × Value)} (agree : FieldsAgree left right)
    (same : renderFields left = renderFields right) : fieldsTail left = fieldsTail right := by
  cases agree with
  | nil => rfl
  | cons => simp [fieldsTail, same]

mutual

theorem Agree.render_eq {left right : Value} (agree : Agree left right) :
    left.render = right.render :=
  match agree with
  | .text t => rfl
  | .atom _ _ same => same
  | .object fields => by rw [render, render, fields.renderFields_eq]

theorem FieldsAgree.renderFields_eq {left right : List (String × Value)}
    (agree : FieldsAgree left right) : renderFields left = renderFields right :=
  match agree with
  | .nil => rfl
  | .cons key first more => by
    have tails := more.fieldsTail_eq more.renderFields_eq
    apply String.toList_injective
    rw [toList_renderFields_cons, toList_renderFields_cons, first.render_eq, tails]

end

def Ends (rest : List Char) : Prop :=
  ∃ c more, rest = c :: more ∧ c ∈ [',', ')', ';']

theorem Ends.stops {rest : List Char} (ends : Ends rest) : Stops isAtomChar rest := by
  obtain ⟨c, more, rfl, mark⟩ := ends
  refine Stops.cons ?_ _
  simp only [List.mem_cons, List.not_mem_nil, or_false] at mark
  rcases mark with rfl | rfl | rfl <;> decide

theorem isAtom_eq_false {value : Value} {c : Char} {rest more : List Char} (legible : value.Legible)
    (ends : Ends rest) (same : value.render.toList ++ rest = c :: more) (mark : c = '"' ∨ c = '(') :
    value.isAtom = false := by
  by_contra atom
  have chars := legible.chars (by simpa using atom)
  cases written : value.render.toList with
  | nil =>
    obtain ⟨d, others, rfl, ending⟩ := ends
    rw [written, List.nil_append, List.cons.injEq] at same
    rw [same.1] at ending
    rcases mark with rfl | rfl <;> simp at ending
  | cons d others =>
    have part := chars d (by simp [written])
    rw [written, List.cons_append, List.cons.injEq] at same
    rw [same.1] at part
    rcases mark with rfl | rfl <;> simp [isAtomChar] at part

theorem toList_render_text (t : String) :
    (text t).render.toList = '"' :: (Quoted.escape t.toList ++ ['"']) := by
  simp [render, Quoted.quote]

theorem toList_render_object (fields : List (String × Value)) :
    (object fields).render.toList = '(' :: ((renderFields fields).toList ++ [')']) := by
  simp [render]

theorem ends_fieldsTail (fields : List (String × Value)) (rest : List Char) :
    Ends (fieldsTail fields ++ ')' :: rest) := by
  cases fields with
  | nil => exact ⟨')', rest, rfl, by simp⟩
  | cons first others => exact ⟨',', _, rfl, by simp⟩

theorem renderFields_of_tail {left right : List (String × Value)} {rest more : List Char}
    (same : fieldsTail left ++ ')' :: rest = fieldsTail right ++ ')' :: more) :
    (renderFields left).toList ++ ')' :: rest = (renderFields right).toList ++ ')' :: more := by
  cases left with
  | nil =>
    cases right with
    | nil => simpa [fieldsTail, renderFields] using same
    | cons => simp [fieldsTail] at same
  | cons =>
    cases right with
    | nil => simp [fieldsTail] at same
    | cons => simpa [fieldsTail] using same

theorem text_cancel {left right : String} {rest more : List Char}
    (same : (text left).render.toList ++ rest = (text right).render.toList ++ more) :
    left = right ∧ rest = more := by
  simp only [toList_render_text, List.cons_append, List.cons.injEq, true_and, List.append_assoc,
    List.nil_append] at same
  have read := congrArg Quoted.read? same
  rw [Quoted.read?_escape, Quoted.read?_escape, Option.some.injEq, Prod.mk.injEq] at read
  exact ⟨String.toList_injective read.1, read.2⟩

theorem atom_cancel {left right : Value} {rest more : List Char} (atom : left.isAtom = true)
    (isLeft : left.Legible) (isRight : right.Legible) (ends : Ends rest) (otherEnds : Ends more)
    (same : left.render.toList ++ rest = right.render.toList ++ more) :
    Agree left right ∧ rest = more := by
  by_cases otherAtom : right.isAtom = true
  · obtain ⟨chars, tails⟩ := Stops.cancel (isLeft.chars atom) (isRight.chars otherAtom) ends.stops
      otherEnds.stops same
    exact ⟨.atom atom otherAtom (String.toList_injective chars), tails⟩
  · exfalso
    cases right with
    | text t =>
      rw [toList_render_text, List.cons_append] at same
      simp [isAtom_eq_false isLeft ends same (.inl rfl)] at atom
    | object fields =>
      rw [toList_render_object, List.cons_append] at same
      simp [isAtom_eq_false isLeft ends same (.inr rfl)] at atom
    | _ => simp [isAtom] at otherAtom

theorem eq_text_of_same {t : String} {right : Value} {rest more : List Char}
    (isRight : right.Legible) (otherEnds : Ends more)
    (same : (text t).render.toList ++ rest = right.render.toList ++ more) :
    right = text t ∧ rest = more := by
  have start := same.symm
  rw [toList_render_text, List.cons_append] at start
  have notAtom := isAtom_eq_false isRight otherEnds start (.inl rfl)
  cases right with
  | text u =>
    obtain ⟨rfl, tails⟩ := text_cancel same
    exact ⟨rfl, tails⟩
  | object fields => simp [toList_render_object] at start
  | _ => simp [isAtom] at notAtom

theorem eq_object_of_same {fields : List (String × Value)} {right : Value} {rest more : List Char}
    (isRight : right.Legible) (otherEnds : Ends more)
    (same : (object fields).render.toList ++ rest = right.render.toList ++ more) :
    ∃ others, right = object others ∧
      (renderFields fields).toList ++ ')' :: rest = (renderFields others).toList ++ ')' :: more := by
  have start := same.symm
  rw [toList_render_object, List.cons_append] at start
  have notAtom := isAtom_eq_false isRight otherEnds start (.inr rfl)
  cases right with
  | text u => simp [toList_render_text] at start
  | object others =>
    simp only [toList_render_object, List.cons_append, List.append_assoc, List.nil_append,
      List.cons.injEq, true_and] at start
    exact ⟨others, rfl, start.symm⟩
  | _ => simp [isAtom] at notAtom

theorem eq_nil_of_same {right : List (String × Value)} {rest more : List Char}
    (isRight : FieldsLegible right)
    (same : (renderFields []).toList ++ ')' :: rest = (renderFields right).toList ++ ')' :: more) :
    right = [] ∧ rest = more := by
  cases right with
  | nil => exact ⟨rfl, by simpa [renderFields] using same⟩
  | cons field others =>
    obtain ⟨key, value⟩ := field
    rw [FieldsLegible] at isRight
    rw [toList_renderFields_cons, List.append_assoc] at same
    exact absurd same.symm (isRight.1.append_ne_cons (by decide) _ _)

theorem eq_cons_of_same {key : String} {value : Value} {others right : List (String × Value)}
    {rest more : List Char} (isKey : IsToken key) (isRight : FieldsLegible right)
    (same : (renderFields ((key, value) :: others)).toList ++ ')' :: rest =
      (renderFields right).toList ++ ')' :: more) :
    ∃ otherValue remaining, right = (key, otherValue) :: remaining ∧
      value.render.toList ++ (fieldsTail others ++ ')' :: rest) =
        otherValue.render.toList ++ (fieldsTail remaining ++ ')' :: more) := by
  rw [toList_renderFields_cons] at same
  cases right with
  | nil =>
    rw [List.append_assoc] at same
    exact absurd same (isKey.append_ne_cons (by decide) _ _)
  | cons field remaining =>
    obtain ⟨otherKey, otherValue⟩ := field
    rw [FieldsLegible] at isRight
    simp only [toList_renderFields_cons, List.append_assoc, List.cons_append] at same
    obtain ⟨rfl, _, behind⟩ := isKey.cancel isRight.1 (by decide) (by decide) same
    rw [List.cons.injEq] at behind
    exact ⟨otherValue, remaining, rfl, behind.2⟩

mutual

/-- Two values at the start of one text agree, if marks that end values follow them. -/
theorem render_cancel (left right : Value) {rest more : List Char} (isLeft : left.Legible)
    (isRight : right.Legible) (ends : Ends rest) (otherEnds : Ends more)
    (same : left.render.toList ++ rest = right.render.toList ++ more) :
    Agree left right ∧ rest = more := by
  cases left with
  | text t =>
    obtain ⟨rfl, tails⟩ := eq_text_of_same isRight otherEnds same
    exact ⟨.text t, tails⟩
  | object fields =>
    obtain ⟨others, rfl, inside⟩ := eq_object_of_same isRight otherEnds same
    rw [Legible] at isLeft isRight
    obtain ⟨agree, tails⟩ := renderFields_cancel fields others isLeft isRight inside
    exact ⟨.object agree, tails⟩
  | _ => exact atom_cancel rfl isLeft isRight ends otherEnds same

theorem renderFields_cancel (left right : List (String × Value)) {rest more : List Char}
    (isLeft : FieldsLegible left) (isRight : FieldsLegible right)
    (same : (renderFields left).toList ++ ')' :: rest = (renderFields right).toList ++ ')' :: more) :
    FieldsAgree left right ∧ rest = more := by
  cases left with
  | nil =>
    obtain ⟨rfl, tails⟩ := eq_nil_of_same isRight same
    exact ⟨.nil, tails⟩
  | cons field others =>
    obtain ⟨key, value⟩ := field
    rw [FieldsLegible] at isLeft
    obtain ⟨otherValue, remaining, rfl, behind⟩ := eq_cons_of_same isLeft.1 isRight same
    rw [FieldsLegible] at isRight
    obtain ⟨first, tails⟩ := render_cancel value otherValue isLeft.2.1 isRight.2.1
      (ends_fieldsTail _ _) (ends_fieldsTail _ _) behind
    obtain ⟨agree, ends⟩ := renderFields_cancel others remaining isLeft.2.2 isRight.2.2
      (renderFields_of_tail tails)
    exact ⟨.cons key first agree, ends⟩

end

end Value

namespace Properties

def NoKey (rest : List Char) : Prop :=
  ∃ more, rest = ' ' :: more ∧ ∀ key tail, IsToken key → more ≠ key.toList ++ ':' :: tail

theorem toList_render_nil : (render []).toList = [] := by
  simp [render]

theorem toList_render_cons (key : String) (value : Value) (rest : Properties) :
    (render ((key, value) :: rest)).toList =
      ' ' :: (key.toList ++ ':' :: ' ' :: (value.render.toList ++ ';' :: (render rest).toList)) := by
  simp [render]

theorem render_cancel {left right : Properties} {rest more : List Char}
    (isLeft : Value.FieldsLegible left) (isRight : Value.FieldsLegible right) (follow : NoKey rest)
    (otherFollow : NoKey more)
    (same : (render left).toList ++ rest = (render right).toList ++ more) :
    Value.FieldsAgree left right ∧ rest = more := by
  induction left generalizing right with
  | nil =>
    cases right with
    | nil => exact ⟨.nil, by simpa [render] using same⟩
    | cons field others =>
      obtain ⟨key, value⟩ := field
      obtain ⟨behind, rfl, free⟩ := follow
      rw [Value.FieldsLegible] at isRight
      simp only [toList_render_nil, toList_render_cons, List.nil_append, List.cons_append,
        List.append_assoc, List.cons.injEq, true_and] at same
      exact absurd same (free key _ isRight.1)
  | cons field others ih =>
    obtain ⟨key, value⟩ := field
    rw [Value.FieldsLegible] at isLeft
    cases right with
    | nil =>
      obtain ⟨behind, rfl, free⟩ := otherFollow
      simp only [toList_render_nil, toList_render_cons, List.nil_append, List.cons_append,
        List.append_assoc, List.cons.injEq, true_and] at same
      exact absurd same.symm (free key _ isLeft.1)
    | cons field remaining =>
      obtain ⟨otherKey, otherValue⟩ := field
      rw [Value.FieldsLegible] at isRight
      simp only [toList_render_cons, List.cons_append, List.append_assoc, List.cons.injEq,
        true_and] at same
      obtain ⟨rfl, _, behind⟩ := isLeft.1.cancel isRight.1 (by decide) (by decide) same
      rw [List.cons.injEq] at behind
      obtain ⟨first, tails⟩ := Value.render_cancel value otherValue isLeft.2.1 isRight.2.1
        ⟨';', _, rfl, by simp⟩ ⟨';', _, rfl, by simp⟩ behind.2
      rw [List.cons.injEq] at tails
      obtain ⟨agree, ends⟩ := ih isLeft.2.2 isRight.2.2 tails.2
      exact ⟨.cons key first agree, ends⟩

theorem render_eq {left right : Properties} (agree : Value.FieldsAgree left right) :
    render left = render right :=
  match agree with
  | .nil => rfl
  | .cons key first more => by rw [render, render, first.render_eq, render_eq more]

end Properties

namespace Node

structure HeadingLegible (name id : Option String) : Prop where
  some : name.isSome = true ∨ id.isSome = true
  name : ∀ n ∈ name, IsToken n
  id : ∀ i ∈ id, IsToken i

mutual

def Legible : Node → Prop
  | ⟨name, id, properties, children, _⟩ =>
    HeadingLegible name id ∧ Value.FieldsLegible properties ∧ AllLegible children

def AllLegible : List Node → Prop
  | [] => True
  | node :: rest => node.Legible ∧ AllLegible rest

end

mutual

inductive Agree : Node → Node → Prop
  | mk {name id : Option String} {properties others : List (String × Value)}
      {children nodes : List Node} {bearing otherBearing : Bool}
      (fields : Value.FieldsAgree properties others) (nested : AllAgree children nodes) :
      Agree ⟨name, id, properties, children, bearing⟩ ⟨name, id, others, nodes, otherBearing⟩

inductive AllAgree : List Node → List Node → Prop
  | nil : AllAgree [] []
  | cons {left right : Node} {rest others : List Node} (first : Agree left right)
      (more : AllAgree rest others) : AllAgree (left :: rest) (right :: others)

end

mutual

theorem Agree.render_eq {left right : Node} (agree : Agree left right) : left.render = right.render :=
  match agree with
  | .mk fields nested => by
    rw [render, render, Properties.render_eq fields, nested.renderAll_eq]

theorem AllAgree.renderAll_eq {left right : List Node} (agree : AllAgree left right) :
    renderAll left = renderAll right :=
  match agree with
  | .nil => rfl
  | .cons first more => by rw [renderAll, renderAll, first.render_eq, more.renderAll_eq]

end

theorem AllAgree.map_render_eq {left right : List Node} (agree : AllAgree left right) :
    left.map render = right.map render :=
  match agree with
  | .nil => rfl
  | .cons first more => by rw [List.map_cons, List.map_cons, first.render_eq, more.map_render_eq]

def behindName (id : Option String) (rest : List Char) : List Char :=
  match id with
  | none => '\x7b' :: rest
  | some id => '#' :: (id.toList ++ ' ' :: '\x7b' :: rest)

theorem toList_heading_name (name : String) (id : Option String) (rest : List Char) :
    (heading (some name) id).toList ++ ' ' :: '\x7b' :: rest =
      name.toList ++ ' ' :: behindName id rest := by
  cases id <;> simp [heading, behindName]

theorem toList_heading_id (id : String) (rest : List Char) :
    (heading none (some id)).toList ++ ' ' :: '\x7b' :: rest = behindName (some id) rest := by
  simp [heading, behindName]

theorem behindName_cancel {left right : Option String} {rest more : List Char}
    (isLeft : ∀ i ∈ left, IsToken i) (isRight : ∀ i ∈ right, IsToken i)
    (same : behindName left rest = behindName right more) : left = right ∧ rest = more := by
  cases left with
  | none =>
    cases right with
    | none => exact ⟨rfl, by simpa [behindName] using same⟩
    | some id => simp [behindName] at same
  | some id =>
    cases right with
    | none => simp [behindName] at same
    | some other =>
      simp only [behindName, List.cons.injEq, true_and] at same
      obtain ⟨rfl, _, behind⟩ := (isLeft id rfl).cancel (isRight other rfl) (by decide) (by decide) same
      exact ⟨rfl, by simpa using behind⟩

theorem heading_cancel {name id other otherId : Option String} {rest more : List Char}
    (isLeft : HeadingLegible name id) (isRight : HeadingLegible other otherId)
    (same : (heading name id).toList ++ ' ' :: '\x7b' :: rest =
      (heading other otherId).toList ++ ' ' :: '\x7b' :: more) :
    name = other ∧ id = otherId ∧ rest = more := by
  cases name with
  | some n =>
    cases other with
    | some m =>
      rw [toList_heading_name, toList_heading_name] at same
      obtain ⟨rfl, _, behind⟩ := (isLeft.name n rfl).cancel (isRight.name m rfl) (by decide) (by decide)
        same
      exact ⟨rfl, behindName_cancel isLeft.id isRight.id behind⟩
    | none =>
      obtain ⟨i, rfl⟩ := Option.isSome_iff_exists.mp (isRight.some.resolve_left (by simp))
      rw [toList_heading_name, toList_heading_id] at same
      exact absurd same ((isLeft.name n rfl).append_ne_cons (by decide) _ _)
  | none =>
    obtain ⟨i, rfl⟩ := Option.isSome_iff_exists.mp (isLeft.some.resolve_left (by simp))
    cases other with
    | some m =>
      rw [toList_heading_name, toList_heading_id] at same
      exact absurd same.symm ((isRight.name m rfl).append_ne_cons (by decide) _ _)
    | none =>
      obtain ⟨j, rfl⟩ := Option.isSome_iff_exists.mp (isRight.some.resolve_left (by simp))
      rw [toList_heading_id, toList_heading_id] at same
      exact ⟨rfl, behindName_cancel isLeft.id isRight.id same⟩

theorem heading_ne {name id : Option String} (legible : HeadingLegible name id) (rest : List Char) :
    (∀ key tail, IsToken key →
      (heading name id).toList ++ ' ' :: '\x7b' :: rest ≠ key.toList ++ ':' :: tail) ∧
    ∀ tail, (heading name id).toList ++ ' ' :: '\x7b' :: rest ≠ '\x7d' :: tail := by
  cases name with
  | some n =>
    have token := legible.name n rfl
    rw [toList_heading_name]
    refine ⟨fun key tail isKey same => ?_, fun tail => token.append_ne_cons (by decide) _ _⟩
    obtain ⟨_, mark, _⟩ := token.cancel isKey (by decide) (by decide) same
    exact absurd mark (by decide)
  | none =>
    obtain ⟨i, rfl⟩ := Option.isSome_iff_exists.mp (legible.some.resolve_left (by simp))
    rw [toList_heading_id]
    exact ⟨fun key tail isKey same => isKey.append_ne_cons (by decide) _ _ same.symm,
      by simp [behindName]⟩

theorem toList_render (name id : Option String) (properties : List (String × Value))
    (children : List Node) (bearing : Bool) (rest : List Char) :
    (render ⟨name, id, properties, children, bearing⟩).toList ++ rest =
      (heading name id).toList ++ ' ' :: '\x7b' :: ((Properties.render properties).toList ++
        ((renderAll children).toList ++ ' ' :: '\x7d' :: rest)) := by
  simp [render]

theorem toList_renderAll_cons (node : Node) (nodes : List Node) :
    (renderAll (node :: nodes)).toList = ' ' :: (node.render.toList ++ (renderAll nodes).toList) := by
  simp [renderAll]

theorem noKey_children {children : List Node} (legible : AllLegible children) (rest : List Char) :
    Properties.NoKey ((renderAll children).toList ++ ' ' :: '\x7d' :: rest) := by
  cases children with
  | nil =>
    refine ⟨'\x7d' :: rest, by simp [renderAll], fun key tail isKey same => ?_⟩
    exact isKey.append_ne_cons (by decide) _ _ same.symm
  | cons node nodes =>
    obtain ⟨name, id, properties, children, bearing⟩ := node
    rw [AllLegible, Legible] at legible
    refine ⟨_, by rw [toList_renderAll_cons, List.cons_append], ?_⟩
    rw [List.append_assoc, toList_render]
    exact (heading_ne legible.1.1 _).1

theorem renderAll_cons_ne_end {node : Node} (legible : node.Legible) (nodes : List Node)
    (rest more : List Char) :
    (renderAll (node :: nodes)).toList ++ rest ≠ (renderAll []).toList ++ ' ' :: '\x7d' :: more := by
  obtain ⟨name, id, properties, children, bearing⟩ := node
  rw [Legible] at legible
  rw [toList_renderAll_cons, List.cons_append, List.append_assoc, toList_render]
  intro same
  simp only [renderAll, String.toList_empty, List.nil_append, List.cons.injEq, true_and] at same
  exact (heading_ne legible.1 _).2 _ same

mutual

/-- Two components at the start of one text agree, and so does what follows them. -/
theorem render_cancel (left right : Node) {rest more : List Char} (isLeft : left.Legible)
    (isRight : right.Legible) (same : left.render.toList ++ rest = right.render.toList ++ more) :
    Agree left right ∧ rest = more := by
  cases left with
  | mk name id properties children bearing =>
    cases right with
    | mk other otherId others nodes otherBearing =>
      rw [Legible] at isLeft isRight
      rw [toList_render, toList_render] at same
      obtain ⟨rfl, rfl, behind⟩ := heading_cancel isLeft.1 isRight.1 same
      obtain ⟨fields, tails⟩ := Properties.render_cancel isLeft.2.1 isRight.2.1
        (noKey_children isLeft.2.2 _) (noKey_children isRight.2.2 _) behind
      obtain ⟨nested, ends⟩ := renderAll_cancel children nodes isLeft.2.2 isRight.2.2 tails
      exact ⟨.mk fields nested, ends⟩

theorem renderAll_cancel (left right : List Node) {rest more : List Char} (isLeft : AllLegible left)
    (isRight : AllLegible right)
    (same : (renderAll left).toList ++ ' ' :: '\x7d' :: rest =
      (renderAll right).toList ++ ' ' :: '\x7d' :: more) : AllAgree left right ∧ rest = more := by
  cases left with
  | nil =>
    cases right with
    | nil => exact ⟨.nil, by simpa [renderAll] using same⟩
    | cons other others =>
      rw [AllLegible] at isRight
      exact absurd same.symm (renderAll_cons_ne_end isRight.1 _ _ _)
  | cons node nodes =>
    rw [AllLegible] at isLeft
    cases right with
    | nil => exact absurd same (renderAll_cons_ne_end isLeft.1 _ _ _)
    | cons other others =>
      rw [AllLegible] at isRight
      simp only [toList_renderAll_cons, List.cons_append, List.append_assoc, List.cons.injEq,
        true_and] at same
      obtain ⟨first, behind⟩ := render_cancel node other isLeft.1 isRight.1 same
      obtain ⟨agree, ends⟩ := renderAll_cancel nodes others isLeft.2 isRight.2 behind
      exact ⟨.cons first agree, ends⟩

end

end Node

end UiMarkup
