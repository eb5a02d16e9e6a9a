import UiMarkup.Proofs.Component.Cancellation
import UiMarkup.Template

namespace UiMarkup

theorem toList_intercalate_cons (separator first : String) (parts : List String) :
    (separator.intercalate (first :: parts)).toList =
      first.toList ++ parts.flatMap fun part => separator.toList ++ part.toList := by
  induction parts generalizing first with
  | nil => simp
  | cons next parts ih =>
    rw [String.intercalate_cons_cons, String.toList_append, String.toList_append, ih,
      List.flatMap_cons]
    simp only [List.append_assoc]

def IsAliasName (name : String) : Prop :=
  ∃ identifier, name = "$" ++ identifier ∧ isIdentifier identifier = true

theorem IsAliasName.chars {name : String} (isName : IsAliasName name) :
    ∃ more, name.toList = '$' :: more ∧ ∀ c ∈ name.toList, (c != ' ') = true := by
  obtain ⟨identifier, rfl, valid⟩ := isName
  refine ⟨identifier.toList, by simp, ?_⟩
  unfold isIdentifier at valid
  split at valid
  · contradiction
  · rename_i first others shape
    simp only [Bool.and_eq_true, List.all_eq_true] at valid
    intro c member
    simp only [String.toList_append, shape, List.mem_append, List.mem_cons] at member
    rw [bne_iff_ne]
    rintro rfl
    rcases member with dollar | rfl | member
    · simp at dollar
    · simp [isIdentifierStart] at valid
    · have part := valid.2 ' ' member
      simp [isIdentifierPart] at part

namespace Aliases

theorem toList_declaration (name path : String) (rest : List Char) :
    (declaration (name, path)).toList ++ rest =
      name.toList ++ ' ' :: '=' :: ' ' :: ((Value.text path).render.toList ++ ';' :: rest) := by
  simp [declaration, Value.render]

theorem declaration_cancel {left right : String × String} {rest more : List Char}
    (isLeft : IsAliasName left.1) (isRight : IsAliasName right.1)
    (same : (declaration left).toList ++ rest = (declaration right).toList ++ more) :
    left = right ∧ rest = more := by
  obtain ⟨name, path⟩ := left
  obtain ⟨other, otherPath⟩ := right
  rw [toList_declaration, toList_declaration] at same
  obtain ⟨_, _, chars⟩ := isLeft.chars
  obtain ⟨_, _, otherChars⟩ := isRight.chars
  obtain ⟨names, behind⟩ := Stops.cancel chars otherChars (Stops.cons (by decide) _)
    (Stops.cons (by decide) _) same
  simp only [List.cons.injEq, true_and] at behind
  obtain ⟨rfl, tails⟩ := Value.text_cancel behind
  rw [List.cons.injEq] at tails
  have sameName : name = other := String.toList_injective names
  exact ⟨by rw [sameName], tails.2⟩

def furtherDeclarations (declared : Fields String) : List Char :=
  declared.flatMap fun entry => ' ' :: (declaration entry).toList

theorem furtherDeclarations_cancel {left right : Fields String} {rest more : List Char}
    (isLeft : ∀ entry ∈ left, IsAliasName entry.1) (isRight : ∀ entry ∈ right, IsAliasName entry.1)
    (stop : Stops (· == ' ') rest) (otherStop : Stops (· == ' ') more)
    (same : furtherDeclarations left ++ rest = furtherDeclarations right ++ more) :
    left = right ∧ rest = more := by
  induction left generalizing right with
  | nil =>
    cases right with
    | nil => exact ⟨rfl, same⟩
    | cons entry others =>
      rw [show rest = ' ' :: _ from same] at stop
      simp [Stops] at stop
  | cons entry others ih =>
    cases right with
    | nil =>
      rw [show more = ' ' :: _ from same.symm] at otherStop
      simp [Stops] at otherStop
    | cons other remaining =>
      simp only [furtherDeclarations, List.flatMap_cons, List.cons_append, List.append_assoc,
        List.cons.injEq, true_and] at same
      obtain ⟨rfl, tails⟩ := declaration_cancel (isLeft entry (by simp)) (isRight other (by simp)) same
      obtain ⟨rfl, ends⟩ := ih (fun e member => isLeft e (by simp [member]))
        (fun e member => isRight e (by simp [member])) tails
      exact ⟨rfl, ends⟩

theorem toList_preamble_cons (entry : String × String) (others : Fields String) :
    (preamble ⟨entry :: others⟩).toList =
      (declaration entry).toList ++ furtherDeclarations others := by
  rw [preamble, List.map_cons, toList_intercalate_cons, furtherDeclarations, List.flatMap_map]
  rfl

end Aliases

namespace Node

theorem toList_render_ne_nil {node : Node} : node.render.toList ≠ [] := by
  obtain ⟨name, id, properties, children, bearing⟩ := node
  rw [← List.append_nil (render _).toList, toList_render]
  simp

theorem render_ne_declaration {node : Node} {entry : String × String} (legible : node.Legible)
    (isName : IsAliasName entry.1) (rest more : List Char) :
    node.render.toList ++ rest ≠ (Aliases.declaration entry).toList ++ more := by
  obtain ⟨name, id, properties, children, bearing⟩ := node
  obtain ⟨declared, path⟩ := entry
  obtain ⟨letters, start, chars⟩ := isName.chars
  rw [Legible] at legible
  rw [toList_render, Aliases.toList_declaration]
  intro same
  cases name with
  | some n =>
    have token : ∀ c ∈ n.toList, (c != ' ') = true := by
      intro c member
      have part := (legible.1.name n rfl).chars c member
      rw [bne_iff_ne]
      rintro rfl
      exact absurd part (by decide)
    rw [toList_heading_name] at same
    obtain ⟨_, behind⟩ := Stops.cancel token chars (Stops.cons (by decide) _)
      (Stops.cons (by decide) _) same
    cases id <;> simp [behindName] at behind
  | none =>
    obtain ⟨i, rfl⟩ := Option.isSome_iff_exists.mp (legible.1.some.resolve_left (by simp))
    rw [toList_heading_id, start] at same
    simp [behindName] at same

def furtherLines (nodes : List Node) : List Char :=
  nodes.flatMap fun node => '\n' :: node.render.toList

theorem stops_furtherLines (nodes : List Node) : Stops (· == ' ') (furtherLines nodes) := by
  cases nodes with
  | nil => exact Stops.nil _
  | cons node nodes => exact Stops.cons (by decide) _

theorem furtherLines_cancel {left right : List Node} (isLeft : AllLegible left)
    (isRight : AllLegible right) (same : furtherLines left = furtherLines right) :
    AllAgree left right := by
  induction left generalizing right with
  | nil =>
    cases right with
    | nil => exact .nil
    | cons node nodes => simp [furtherLines] at same
  | cons node nodes ih =>
    cases right with
    | nil => simp [furtherLines] at same
    | cons other others =>
      rw [AllLegible] at isLeft isRight
      simp only [furtherLines, List.flatMap_cons, List.cons_append, List.cons.injEq, true_and] at same
      obtain ⟨first, tails⟩ := render_cancel node other isLeft.1 isRight.1 same
      exact .cons first (ih isLeft.2 isRight.2 tails)

end Node

namespace Template

/-- A template whose commands can be read. -/
structure Legible (template : Template) : Prop where
  aliases : ∀ entry ∈ template.aliases.declared, IsAliasName entry.1
  roots : Node.AllLegible template.roots

def rootLines : List Node → List Char
  | [] => []
  | node :: nodes => node.render.toList ++ Node.furtherLines nodes

theorem toList_intercalate_commands (nodes : List Node) :
    (String.intercalate "\n" (nodes.map Node.render)).toList = rootLines nodes := by
  cases nodes with
  | nil => simp [rootLines]
  | cons node nodes =>
    rw [List.map_cons, toList_intercalate_cons, rootLines, Node.furtherLines, List.flatMap_map]
    rfl

theorem toList_render_plain {template : Template} (none : template.aliases.declared = []) :
    template.render.toList = rootLines template.roots := by
  have empty : template.aliases.preamble = "" := by
    rw [Aliases.preamble, none]
    rfl
  rw [render, if_pos empty, commands, toList_intercalate_commands]

theorem toList_render_declared {template : Template} {entry : String × String}
    {others : Fields String} (declared : template.aliases.declared = entry :: others) :
    template.render.toList = (Aliases.declaration entry).toList ++
      (Aliases.furtherDeclarations others ++ Node.furtherLines template.roots) := by
  have preamble : template.aliases.preamble.toList =
      (Aliases.declaration entry).toList ++ Aliases.furtherDeclarations others := by
    rw [← Aliases.toList_preamble_cons, ← declared]
  have filled : template.aliases.preamble ≠ "" := by
    intro empty
    obtain ⟨name, path⟩ := entry
    rw [empty, Aliases.toList_declaration] at preamble
    simp at preamble
  rw [render, if_neg filled, commands, toList_intercalate_cons, preamble, Node.furtherLines,
    List.flatMap_map, List.append_assoc]
  rfl

theorem rootLines_cancel {left right : List Node} (isLeft : Node.AllLegible left)
    (isRight : Node.AllLegible right) (same : rootLines left = rootLines right) :
    Node.AllAgree left right := by
  cases left with
  | nil =>
    cases right with
    | nil => exact .nil
    | cons node nodes =>
      exact absurd (List.append_eq_nil_iff.mp same.symm).1 Node.toList_render_ne_nil
  | cons node nodes =>
    cases right with
    | nil => exact absurd (List.append_eq_nil_iff.mp same).1 Node.toList_render_ne_nil
    | cons other others =>
      rw [Node.AllLegible] at isLeft isRight
      obtain ⟨first, tails⟩ := Node.render_cancel node other isLeft.1 isRight.1 same
      exact .cons first (Node.furtherLines_cancel isLeft.2 isRight.2 tails)

theorem rootLines_ne_declaration {nodes : List Node} {entry : String × String}
    (legible : Node.AllLegible nodes) (isName : IsAliasName entry.1) (more : List Char) :
    rootLines nodes ≠ (Aliases.declaration entry).toList ++ more := by
  cases nodes with
  | nil =>
    obtain ⟨name, path⟩ := entry
    rw [Aliases.toList_declaration]
    simp [rootLines]
  | cons node nodes =>
    rw [Node.AllLegible] at legible
    exact Node.render_ne_declaration legible.1 isName _ _

theorem agree_of_render_eq {left right : Template} (isLeft : left.Legible) (isRight : right.Legible)
    (same : left.render = right.render) :
    left.aliases.declared = right.aliases.declared ∧ Node.AllAgree left.roots right.roots := by
  have text := congrArg String.toList same
  cases declared : left.aliases.declared with
  | nil =>
    rw [toList_render_plain declared] at text
    cases other : right.aliases.declared with
    | nil =>
      rw [toList_render_plain other] at text
      exact ⟨rfl, rootLines_cancel isLeft.roots isRight.roots text⟩
    | cons entry entries =>
      rw [toList_render_declared other] at text
      exact absurd text (rootLines_ne_declaration isLeft.roots (isRight.aliases entry (by simp [other])) _)
  | cons entry entries =>
    rw [toList_render_declared declared] at text
    cases other : right.aliases.declared with
    | nil =>
      rw [toList_render_plain other] at text
      exact absurd text.symm
        (rootLines_ne_declaration isRight.roots (isLeft.aliases entry (by simp [declared])) _)
    | cons otherEntry otherEntries =>
      rw [toList_render_declared other] at text
      have names := isLeft.aliases
      have otherNames := isRight.aliases
      rw [declared] at names
      rw [other] at otherNames
      obtain ⟨rfl, behind⟩ := Aliases.declaration_cancel (names entry (by simp))
        (otherNames otherEntry (by simp)) text
      obtain ⟨rfl, lines⟩ := Aliases.furtherDeclarations_cancel
        (fun e member => names e (by simp [member])) (fun e member => otherNames e (by simp [member]))
        (Node.stops_furtherLines _) (Node.stops_furtherLines _) behind
      exact ⟨rfl, Node.furtherLines_cancel isLeft.roots isRight.roots lines⟩

theorem render_eq_of_agree {left right : Template}
    (declared : left.aliases.declared = right.aliases.declared)
    (roots : Node.AllAgree left.roots right.roots) : left.render = right.render := by
  rw [render, render, commands, commands, roots.map_render_eq, Aliases.preamble, Aliases.preamble,
    declared]

/-- The commands of a template are uniquely decodable: two templates have the same commands only if
they declare the same aliases and have the same components. -/
theorem render_eq_iff_agree {left right : Template} (isLeft : left.Legible) (isRight : right.Legible) :
    left.render = right.render ↔
      left.aliases.declared = right.aliases.declared ∧ Node.AllAgree left.roots right.roots :=
  ⟨agree_of_render_eq isLeft isRight, fun ⟨declared, roots⟩ => render_eq_of_agree declared roots⟩

theorem render_eq_iff_agree_labels :
    let label (on : Value) (bearing : Bool) : Node :=
      ⟨some "Label", some "a", [("Text", .text "\x7d \"x\";\n"), ("On", on),
        ("Box", .object [("Color", .color "#fff"), ("Rest", .object [])])],
        [⟨none, some "slot", [], [], false⟩], bearing⟩
    let left : Template := ⟨[label (.flag true) true], [], ⟨[("$Lib", "a\"; b")]⟩⟩
    let right : Template :=
      ⟨[label (.expression "true") false], [("v", "1")], ⟨[("$Lib", "a\"; b")]⟩⟩
    left.Legible ∧ right.Legible ∧ left.render = right.render ∧
      Node.AllAgree left.roots right.roots := by
  intro label left right
  have declared (entry : String × String) (member : entry ∈ [("$Lib", "a\"; b")]) :
      IsAliasName entry.1 := by
    rw [List.mem_singleton.mp member]
    exact ⟨"Lib", rfl, by decide⟩
  have legible (on : Value) (bearing : Bool) (isOn : on.Legible) : (label on bearing).Legible := by
    simp only [label, Node.Legible, Node.AllLegible, Value.FieldsLegible, Value.Legible, isOn, true_and,
      and_true]
    refine ⟨⟨.inl rfl, by simp; decide, by simp; decide⟩, ⟨by decide, by decide, by decide, ?_⟩,
      .inr rfl, by simp, by simp; decide⟩
    exact ⟨by decide, List.all_eq_true.mp (by decide), by decide⟩
  have flag : (Value.flag true).Legible := by
    simp only [Value.Legible]
    exact List.all_eq_true.mp (by decide)
  have expression : (Value.expression "true").Legible := by
    simp only [Value.Legible]
    exact List.all_eq_true.mp (by decide)
  have isLeft : left.Legible := ⟨declared, legible _ true flag, trivial⟩
  have isRight : right.Legible := ⟨declared, legible _ false expression, trivial⟩
  have same : left.render = right.render := by decide +kernel
  exact ⟨isLeft, isRight, same, ((render_eq_iff_agree isLeft isRight).mp same).2⟩

end Template

end UiMarkup
