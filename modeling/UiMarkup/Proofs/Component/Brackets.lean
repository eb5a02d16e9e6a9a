import UiMarkup.Proofs.Component.Shape
import UiMarkup.Proofs.Component.Tidiness

namespace UiMarkup

inductive Bracket where
  | opening
  | closing
deriving DecidableEq

namespace Shape

mutual

def word : Shape → List Bracket
  | .node children => .opening :: (words children ++ [.closing])

def words : List Shape → List Bracket
  | [] => []
  | shape :: rest => shape.word ++ words rest

end

/-- Reads brackets. The stack has the finished components of each level, the innermost first. -/
def settle : List (List Shape) → List Bracket → List (List Shape)
  | stack, [] => stack
  | stack, .opening :: rest => settle ([] :: stack) rest
  | inner :: outer :: others, .closing :: rest => settle ((outer ++ [.node inner]) :: others) rest
  | stack, .closing :: rest => settle stack rest

mutual

theorem settle_word (shape : Shape) (level : List Shape) (others : List (List Shape))
    (rest : List Bracket) :
    settle (level :: others) (shape.word ++ rest) = settle ((level ++ [shape]) :: others) rest := by
  cases shape with
  | node children =>
    rw [word, List.cons_append, settle, List.append_assoc, settle_words children]
    rfl

theorem settle_words (shapes : List Shape) (level : List Shape) (others : List (List Shape))
    (rest : List Bracket) :
    settle (level :: others) (words shapes ++ rest) = settle ((level ++ shapes) :: others) rest := by
  cases shapes with
  | nil => rw [words, List.nil_append, List.append_nil]
  | cons first shapes =>
    rw [words, List.append_assoc, settle_word first, settle_words shapes, List.append_assoc]
    rfl

end

theorem words_injective : Function.Injective words := by
  intro left right same
  -- a stack with one empty level reads the shapes back
  have read (shapes : List Shape) : settle [[]] (words shapes) = [shapes] := by
    have run := settle_words shapes [] [] []
    rwa [List.append_nil] at run
  have both := congrArg (settle [[]]) same
  rw [read, read] at both
  exact List.singleton_inj.mp both

instance : DecidableEq Shape := fun left right =>
  decidable_of_iff (words [left] = words [right])
    ⟨fun same => List.singleton_inj.mp (words_injective same), fun same => by rw [same]⟩

end Shape

inductive Place where
  | outside
  | quoted
  | escaped
deriving DecidableEq

def Place.next : Place → Char → Place
  | outside, c => if c = '"' then quoted else outside
  | quoted, c => if c = '"' then outside else if c = '\\' then escaped else quoted
  | escaped, _ => quoted

def standsApart : List Char → Bool
  | [] => true
  | c :: _ => c == ' ' || c == '\n'

def bracketOf : Char → List Bracket
  | '\x7b' => [.opening]
  | '\x7d' => [.closing]
  | _ => []

/-- The brackets of a text of commands: its braces outside quotes that are set apart. -/
def brackets : Place → List Char → List Bracket
  | _, [] => []
  | place, c :: rest =>
    (if place = .outside ∧ standsApart rest then bracketOf c else []) ++ brackets (place.next c) rest

/-- A text without brackets of its own where `follow` comes behind it: it has no braces that are set
apart outside its quotes, and it closes its quotes. -/
def Neutral (text : String) (follow : Char) : Prop :=
  brackets .outside (text.toList ++ [follow]) = [] ∧
    text.toList.foldl Place.next .outside = .outside

instance (text : String) (follow : Char) : Decidable (Neutral text follow) :=
  inferInstanceAs (Decidable (_ ∧ _))

theorem brackets_append {follow : Char} (plain : bracketOf follow = []) (text rest : List Char)
    (place : Place) :
    brackets place (text ++ follow :: rest) =
      brackets place (text ++ [follow]) ++ brackets (text.foldl Place.next place) (follow :: rest) := by
  induction text generalizing place with
  | nil => simp [brackets, plain]
  | cons c text ih =>
    have next : standsApart (text ++ follow :: rest) = standsApart (text ++ [follow]) := by
      cases text <;> rfl
    have step (after : List Char) : brackets place (c :: after) =
        (if place = .outside ∧ standsApart after then bracketOf c else []) ++
          brackets (place.next c) after := rfl
    rw [List.cons_append, List.cons_append, step, step, next, ih, List.append_assoc]
    rfl

theorem Neutral.brackets_eq {text : String} {follow : Char} (neutral : Neutral text follow)
    (plain : bracketOf follow = []) (rest : List Char) :
    brackets .outside (text.toList ++ follow :: rest) = brackets .outside (follow :: rest) := by
  rw [brackets_append plain, neutral.1, neutral.2, List.nil_append]

theorem brackets_cons_of_unmarked {c : Char} (unmarked : isMark c = false) (rest : List Char) :
    brackets .outside (c :: rest) = brackets .outside rest := by
  simp only [isMark, Bool.or_eq_false_iff, beq_eq_false_iff_ne] at unmarked
  obtain ⟨⟨notOpening, notClosing⟩, notQuote⟩ := unmarked
  have none : bracketOf c = [] := by
    unfold bracketOf
    split
    · exact absurd rfl notOpening
    · exact absurd rfl notClosing
    · rfl
  rw [brackets, none, Place.next, if_neg notQuote]
  simp

theorem brackets_append_of_unmarked {text : List Char} (unmarked : ∀ c ∈ text, isMark c = false)
    (rest : List Char) : brackets .outside (text ++ rest) = brackets .outside rest := by
  induction text with
  | nil => rfl
  | cons c text ih =>
    rw [List.forall_mem_cons] at unmarked
    rw [List.cons_append, brackets_cons_of_unmarked unmarked.1, ih unmarked.2]

/-- A brace in a key is never set apart, since a character of the key or the colon follows it. -/
theorem brackets_key {key : List Char} (isKey : ∀ c ∈ key, isKeyChar c = true) (rest : List Char) :
    brackets .outside (key ++ ':' :: rest) = brackets .outside rest := by
  induction key with
  | nil => exact brackets_cons_of_unmarked (by decide) rest
  | cons c key ih =>
    rw [List.forall_mem_cons] at isKey
    have notQuote : c ≠ '"' := by
      rintro rfl
      exact absurd isKey.1 (by decide)
    have inside : standsApart (key ++ ':' :: rest) = false := by
      cases key with
      | nil => rfl
      | cons d key =>
        have part := isKey.2 d List.mem_cons_self
        simp only [isKeyChar, Bool.and_eq_true, bne_iff_ne] at part
        simp [standsApart, part.1.1, part.1.2]
    rw [List.cons_append, brackets, inside, Place.next, if_neg notQuote, ih isKey.2]
    simp

theorem brackets_escapeChar (c : Char) (rest : List Char) :
    brackets .quoted (Quoted.escapeChar c ++ rest) = brackets .quoted rest := by
  by_cases quote : c = '"'
  · subst quote
    simp [Quoted.escapeChar, brackets, Place.next]
  by_cases backslash : c = '\\'
  · subst backslash
    simp [Quoted.escapeChar, brackets, Place.next]
  by_cases newline : c = '\n'
  · subst newline
    simp [Quoted.escapeChar, brackets, Place.next]
  by_cases tab : c = '\t'
  · subst tab
    simp [Quoted.escapeChar, brackets, Place.next]
  simp [Quoted.escapeChar, quote, backslash, newline, tab, brackets, Place.next]

theorem brackets_escape (text rest : List Char) :
    brackets .quoted (Quoted.escape text ++ '"' :: rest) = brackets .outside rest := by
  induction text with
  | nil => simp [Quoted.escape, brackets, Place.next]
  | cons c text ih =>
    rw [show Quoted.escape (c :: text) = Quoted.escapeChar c ++ Quoted.escape text from rfl,
      List.append_assoc, brackets_escapeChar, ih]

theorem brackets_quote (rest : List Char) :
    brackets .outside ('"' :: rest) = brackets .quoted rest := by
  rw [brackets]
  simp [bracketOf, Place.next]

theorem brackets_opening {rest : List Char} (apart : standsApart rest = true) :
    brackets .outside ('\x7b' :: rest) = .opening :: brackets .outside rest := by
  rw [brackets, apart]
  rfl

theorem brackets_closing {rest : List Char} (apart : standsApart rest = true) :
    brackets .outside ('\x7d' :: rest) = .closing :: brackets .outside rest := by
  rw [brackets, apart]
  rfl

namespace Value

theorem brackets_text (text : String) (rest : List Char) :
    brackets .outside ((Value.text text).render.toList ++ rest) = brackets .outside rest := by
  rw [toList_render_text, List.cons_append, brackets_quote, List.append_assoc]
  exact brackets_escape text.toList rest

theorem unmarked_ofFlag (set : Bool) : UiMarkup.Unmarked (ofFlag set) := by
  cases set <;> decide

mutual

theorem brackets_render (value : Value) (unmarked : value.Unmarked) (rest : List Char) :
    brackets .outside (value.render.toList ++ rest) = brackets .outside rest := by
  cases value with
  | text text => exact brackets_text text rest
  | number x => exact brackets_append_of_unmarked (Decimal.unmarked_shortest x) rest
  | flag set => exact brackets_append_of_unmarked (unmarked_ofFlag set) rest
  | color color => exact brackets_append_of_unmarked unmarked rest
  | expression expression => exact brackets_append_of_unmarked unmarked rest
  | object fields =>
    rw [toList_render_object, List.cons_append, brackets_cons_of_unmarked (by decide), List.append_assoc,
      brackets_renderFields fields (fieldsUnmarked_of_object unmarked)]
    exact brackets_cons_of_unmarked (by decide) rest

theorem brackets_renderFields (fields : List (String × Value)) (unmarked : FieldsUnmarked fields)
    (rest : List Char) : brackets .outside ((renderFields fields).toList ++ rest) = brackets .outside rest := by
  cases fields with
  | nil => simp [renderFields]
  | cons field others =>
    obtain ⟨key, value⟩ := field
    rw [FieldsUnmarked] at unmarked
    obtain ⟨isKey, isValue, isOthers⟩ := unmarked
    have tail : brackets .outside (fieldsTail others ++ rest) = brackets .outside rest := by
      have more := brackets_renderFields others isOthers rest
      cases others with
      | nil => rfl
      | cons next remaining =>
        have comma : fieldsTail (next :: remaining) ++ rest =
            ',' :: ' ' :: ((renderFields (next :: remaining)).toList ++ rest) := rfl
        rw [comma, brackets_cons_of_unmarked (by decide), brackets_cons_of_unmarked (by decide), more]
    rw [toList_renderFields_cons, List.append_assoc, List.cons_append, brackets_key isKey, List.cons_append,
      brackets_cons_of_unmarked (by decide), List.append_assoc, brackets_render value isValue, tail]

end

def expression? : Value → Option String
  | expression e => some e
  | _ => none

end Value

def Properties.verbatim (properties : Properties) : List (String × Char) :=
  properties.filterMap fun field => field.2.expression?.map fun text => (text, ';')

namespace Properties

variable {properties : Properties}

theorem Tidy.brackets_value (tidy : properties.Tidy)
    (neutral : ∀ shown ∈ properties.verbatim, Neutral shown.1 shown.2) {field : String × Value}
    (member : field ∈ properties) (rest : List Char) :
    brackets .outside (field.2.render.toList ++ ';' :: rest) = brackets .outside (';' :: rest) := by
  rcases (tidy field member).2 with unmarked | ⟨expression, isExpression⟩
  · exact Value.brackets_render field.2 unmarked _
  · have shown : (expression, ';') ∈ properties.verbatim := by
      refine List.mem_filterMap.mpr ⟨field, member, ?_⟩
      rw [isExpression]
      rfl
    rw [isExpression, Value.render]
    exact (neutral _ shown).brackets_eq rfl rest

theorem Tidy.brackets_render (tidy : properties.Tidy)
    (neutral : ∀ shown ∈ properties.verbatim, Neutral shown.1 shown.2) (rest : List Char) :
    brackets .outside ((render properties).toList ++ rest) = brackets .outside rest := by
  have key {field : String × Value} (member : field ∈ properties) := (tidy field member).1
  have value {field : String × Value} (member : field ∈ properties) := tidy.brackets_value neutral member
  clear tidy neutral
  induction properties with
  | nil => simp [render]
  | cons field others ih =>
    obtain ⟨name, held⟩ := field
    rw [toList_render_cons, List.cons_append, brackets_cons_of_unmarked (by decide), List.append_assoc,
      List.cons_append, brackets_key (key List.mem_cons_self), List.cons_append,
      brackets_cons_of_unmarked (by decide), List.append_assoc, List.cons_append,
      value List.mem_cons_self, brackets_cons_of_unmarked (by decide)]
    exact ih (fun member => key (List.mem_cons_of_mem _ member))
      (fun member => value (List.mem_cons_of_mem _ member))

theorem standsApart_render {rest : List Char} (apart : standsApart rest = true) :
    standsApart ((render properties).toList ++ rest) = true := by
  cases properties with
  | nil => simpa [render] using apart
  | cons field others =>
    rw [toList_render_cons]
    rfl

end Properties

namespace Node

mutual

def verbatim : Node → List (String × Char)
  | ⟨_, id, properties, children, _⟩ =>
    id.toList.map (fun text => (text, ' ')) ++ Properties.verbatim properties ++ verbatimAll children

def verbatimAll : List Node → List (String × Char)
  | [] => []
  | node :: rest => node.verbatim ++ verbatimAll rest

end

theorem mem_verbatimAll {nodes : List Node} {node : Node} {shown : String × Char} (member : node ∈ nodes)
    (isShown : shown ∈ node.verbatim) : shown ∈ verbatimAll nodes := by
  induction nodes with
  | nil => cases member
  | cons first rest ih =>
    rw [verbatimAll]
    rcases List.mem_cons.mp member with rfl | member
    · exact List.mem_append_left _ isShown
    · exact List.mem_append_right _ (ih member)

theorem brackets_heading {name id : Option String} (isName : ∀ n ∈ name, Unmarked n)
    (isId : ∀ i ∈ id, Neutral i ' ') (rest : List Char) :
    brackets .outside ((heading name id).toList ++ ' ' :: rest) = brackets .outside rest := by
  have behind (i : String) (isSome : i ∈ id) :
      brackets .outside ('#' :: (i.toList ++ ' ' :: rest)) = brackets .outside rest := by
    rw [brackets_cons_of_unmarked (by decide), (isId i isSome).brackets_eq rfl,
      brackets_cons_of_unmarked (by decide)]
  cases name with
  | none =>
    cases id with
    | none =>
      have shape : (heading none none).toList ++ ' ' :: rest = '#' :: ' ' :: rest := by
        simp [heading]
      rw [shape, brackets_cons_of_unmarked (by decide), brackets_cons_of_unmarked (by decide)]
    | some id => simpa [heading] using behind id rfl
  | some name =>
    have unmarked := brackets_append_of_unmarked (isName name rfl)
    cases id with
    | none =>
      rw [heading, unmarked]
      exact brackets_cons_of_unmarked (by decide) rest
    | some id =>
      have shape : (heading (some name) (some id)).toList ++ ' ' :: rest =
          name.toList ++ ' ' :: '#' :: (id.toList ++ ' ' :: rest) := by
        simp [heading]
      rw [shape, unmarked, brackets_cons_of_unmarked (by decide), behind id rfl]

theorem standsApart_renderAll {nodes : List Node} {rest : List Char} (apart : standsApart rest = true) :
    standsApart ((renderAll nodes).toList ++ rest) = true := by
  cases nodes with
  | nil => simpa [renderAll] using apart
  | cons node nodes =>
    rw [toList_renderAll_cons]
    rfl

def Bracketed (node : Node) : Prop :=
  ∀ rest, standsApart rest = true →
    brackets .outside (node.render.toList ++ rest) = node.shape.word ++ brackets .outside rest

theorem brackets_renderAll {nodes : List Node} (each : ∀ node ∈ nodes, node.Bracketed)
    {rest : List Char} (apart : standsApart rest = true) :
    brackets .outside ((renderAll nodes).toList ++ rest) =
      Shape.words (shapes nodes) ++ brackets .outside rest := by
  induction nodes with
  | nil => simp [renderAll, shapes, Shape.words]
  | cons node nodes ih =>
    rw [List.forall_mem_cons] at each
    rw [toList_renderAll_cons, List.cons_append, brackets_cons_of_unmarked (by decide), List.append_assoc,
      each.1 _ (standsApart_renderAll apart), ih each.2, shapes, Shape.words, List.append_assoc]

theorem bracketed_of_tidy {node : Node} (tidy : node.Tidy)
    (neutral : ∀ shown ∈ node.verbatim, Neutral shown.1 shown.2) : node.Bracketed := by
  induction tidy with
  | @intro node isName properties children ih =>
    obtain ⟨name, id, fields, nodes, bearing⟩ := node
    simp only [verbatim, List.forall_mem_append, List.forall_mem_map] at neutral
    obtain ⟨⟨isId, isExpression⟩, inside⟩ := neutral
    have nested : ∀ child ∈ nodes, child.Bracketed := by
      intro child member
      refine ih child member ?_
      intro shown isShown
      exact inside shown (mem_verbatimAll member isShown)
    intro rest apart
    -- from left to right: the heading, the brace, the properties, the children, the brace
    have ends : standsApart (' ' :: '\x7d' :: rest) = true := rfl
    rw [toList_render, brackets_heading isName (by simpa using isId),
      brackets_opening (Properties.standsApart_render (standsApart_renderAll ends)),
      properties.brackets_render isExpression, brackets_renderAll nested ends,
      brackets_cons_of_unmarked (by decide), brackets_closing apart, shape, Shape.word]
    simp

theorem brackets_furtherLines {nodes : List Node} (each : ∀ node ∈ nodes, node.Bracketed) :
    brackets .outside (furtherLines nodes) = Shape.words (shapes nodes) := by
  induction nodes with
  | nil => rfl
  | cons node nodes ih =>
    rw [List.forall_mem_cons] at each
    have apart : standsApart (furtherLines nodes) = true := by
      cases nodes <;> rfl
    have line : furtherLines (node :: nodes) = '\n' :: (node.render.toList ++ furtherLines nodes) := rfl
    rw [line, brackets_cons_of_unmarked (by decide), each.1 _ apart, ih each.2, shapes, Shape.words]

end Node

namespace Aliases

theorem brackets_declaration {entry : String × String} (isName : IsAliasName entry.1)
    (rest : List Char) :
    brackets .outside ((declaration entry).toList ++ rest) = brackets .outside rest := by
  obtain ⟨name, path⟩ := entry
  rw [toList_declaration, brackets_append_of_unmarked isName.unmarked,
    brackets_cons_of_unmarked (by decide), brackets_cons_of_unmarked (by decide),
    brackets_cons_of_unmarked (by decide), Value.brackets_text, brackets_cons_of_unmarked (by decide)]

theorem brackets_furtherDeclarations {declared : Fields String}
    (names : ∀ entry ∈ declared, IsAliasName entry.1) (rest : List Char) :
    brackets .outside (furtherDeclarations declared ++ rest) = brackets .outside rest := by
  induction declared with
  | nil => rfl
  | cons entry others ih =>
    rw [List.forall_mem_cons] at names
    rw [furtherDeclarations, List.flatMap_cons, List.append_assoc, List.cons_append,
      brackets_cons_of_unmarked (by decide), brackets_declaration names.1]
    exact ih names.2

end Aliases

namespace Template

theorem brackets_rootLines {nodes : List Node} (each : ∀ node ∈ nodes, node.Bracketed) :
    brackets .outside (rootLines nodes) = Shape.words (Node.shapes nodes) := by
  have lines := Node.brackets_furtherLines each
  cases nodes with
  | nil => rfl
  | cons node nodes =>
    have first : Node.furtherLines (node :: nodes) = '\n' :: rootLines (node :: nodes) := rfl
    rwa [first, brackets_cons_of_unmarked (by decide)] at lines

theorem brackets_render {template : Template}
    (names : ∀ entry ∈ template.aliases.declared, IsAliasName entry.1)
    (each : ∀ root ∈ template.roots, root.Bracketed) :
    brackets .outside template.render.toList = Shape.words (Node.shapes template.roots) := by
  cases declared : template.aliases.declared with
  | nil => rw [toList_render_plain declared, brackets_rootLines each]
  | cons entry others =>
    rw [declared, List.forall_mem_cons] at names
    rw [toList_render_declared declared, Aliases.brackets_declaration names.1,
      Aliases.brackets_furtherDeclarations names.2, Node.brackets_furtherLines each]

theorem brackets_of_compile {surroundings : Surroundings} {overrides : Fields String} {source : String}
    {template : Template} (custom : surroundings.registry = .empty)
    (compiled : (compile surroundings overrides source).result = .ok template)
    (neutral : ∀ shown ∈ Node.verbatimAll template.roots, Neutral shown.1 shown.2) :
    brackets .outside template.render.toList = Shape.words (Node.shapes template.roots) := by
  refine brackets_render (named_of_compile compiled) ?_
  intro root member
  refine Node.bracketed_of_tidy (tidy_of_compile custom compiled root member) ?_
  intro shown isShown
  exact neutral shown (Node.mem_verbatimAll member isShown)

/-- Commands show the shape of their components. Without custom tags, if the ids and bindings of two
texts are neutral where they are written and the texts compile to the same commands, then their
components have the same shape. -/
theorem same_shape_of_render_eq {surroundings others : Surroundings} {left right : Fields String}
    {source other : String} {first second : Template} (custom : surroundings.registry = .empty)
    (otherCustom : others.registry = .empty)
    (compiled : (compile surroundings left source).result = .ok first)
    (otherCompiled : (compile others right other).result = .ok second)
    (neutral : ∀ shown ∈ Node.verbatimAll first.roots, Neutral shown.1 shown.2)
    (otherNeutral : ∀ shown ∈ Node.verbatimAll second.roots, Neutral shown.1 shown.2)
    (same : first.render = second.render) : Node.shapes first.roots = Node.shapes second.roots := by
  apply Shape.words_injective
  rw [← brackets_of_compile custom compiled neutral,
    ← brackets_of_compile otherCustom otherCompiled otherNeutral, same]

/-- Braces may stand in texts, and in bindings too if they are quoted or not set apart. -/
theorem same_shape_of_render_eq_braces :
    let surroundings : Surroundings := ⟨.empty, fun _ => .directory, none⟩
    let source := "<div id='a' :b='\"\x7b \" + \x7bx\x7d'><p>\x7d \x7b</p></div>"
    let other := "<nav id='a' :b='\"\x7b \" + \x7bx\x7d'><span>\x7d \x7b</span></nav>"
    ∃ first second, (compile surroundings [] source).result = .ok first ∧
      (compile surroundings [] other).result = .ok second ∧
      first.render = "Group #a \x7b B: \"\x7b \" + \x7bx\x7d; Label \x7b Text: \"\x7d \x7b\"; \x7d \x7d" ∧
      second.render = first.render ∧ Node.shapes first.roots = Node.shapes second.roots := by
  intro surroundings source other
  let view (template : Template) := (template.render, Node.verbatimAll template.roots)
  let seen := ("Group #a \x7b B: \"\x7b \" + \x7bx\x7d; Label \x7b Text: \"\x7d \x7b\"; \x7d \x7d",
    [("a", ' '), ("\"\x7b \" + \x7bx\x7d", ';')])
  have ofSource : (compile surroundings [] source).result.toOption.map view = some seen := by
    decide +kernel
  have ofOther : (compile surroundings [] other).result.toOption.map view = some seen := by
    decide +kernel
  obtain ⟨first, compiled, isSeen⟩ := ok_of_toOption_map ofSource
  obtain ⟨second, otherCompiled, isSeenAgain⟩ := ok_of_toOption_map ofOther
  have neutral : ∀ shown ∈ seen.2, Neutral shown.1 shown.2 := by decide +kernel
  have left : Node.verbatimAll first.roots = seen.2 := congrArg Prod.snd isSeen
  have right : Node.verbatimAll second.roots = seen.2 := congrArg Prod.snd isSeenAgain
  have same : first.render = second.render := congrArg Prod.fst (isSeen.trans isSeenAgain.symm)
  exact ⟨first, second, compiled, otherCompiled, congrArg Prod.fst isSeen, same.symm,
    same_shape_of_render_eq rfl rfl compiled otherCompiled (by rwa [left]) (by rwa [right]) same⟩

def outcome (source : String) : Option (String × List Shape) :=
  (compile ⟨.empty, fun _ => .directory, none⟩ [] source).result.toOption.map fun template =>
    (template.render, Node.shapes template.roots)

def Confusable (source other : String) : Prop :=
  ∃ text left right, outcome source = some (text, left) ∧ outcome other = some (text, right) ∧
    left ≠ right

instance (source other : String) : Decidable (Confusable source other) :=
  match here : outcome source, there : outcome other with
  | some (text, left), some (otherText, right) =>
    decidable_of_iff (text = otherText ∧ left ≠ right) (by simp [Confusable, here, there, eq_comm])
  | none, _ => isFalse (by simp [Confusable, here])
  | some _, none => isFalse (by simp [Confusable, there])

/-- Braces and quotes in bindings and ids can make one component read as several, and the other way
round. -/
theorem confusable_marks :
    Confusable "<div><div :a='1; \x7d Group \x7b A: 1'/></div>" "<div><div :a='1'/><div :a='1'/></div>" ∧
      Confusable "<div :a='1; X \x7b \x7d Y #i'><Z id='j'/></div>"
        "<div :a='1'><X/><Y id='i; Z #j'/></div>" ∧
      Confusable "<div><div id='a \x7b \x7d Group #b'/></div>" "<div><div id='a'/><div id='b'/></div>" ∧
      Confusable "<div :a='\"'><div title='; Group \x7b B: '/><div :c='\"'/></div>"
        "<div a='; Group \x7b TooltipText: '><div b='; \x7d Group \x7b C: '/></div>" ∧
      Confusable "<div><_anchor id='x: \"'/><div id='\"; Group #c'/></div>"
        "<div #x=' \x7b \x7d Group #'><div id='c'/></div>" := by
  decide +kernel

end Template

end UiMarkup
