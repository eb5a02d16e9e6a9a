import UiMarkup.Component.Value
import UiMarkup.Proofs.Fields
import UiMarkup.Proofs.Markup.Reading
import UiMarkup.Proofs.Script.Variables
import UiMarkup.Script.Evaluation

namespace UiMarkup

theorem Warned.result_liftM {α : Type} (result : Except Error α) :
    (liftM result : Warned α).result = result := rfl

abbrev Identifier := { name : String // isIdentifier name = true }

namespace Script

def Gap (text : List Char) : Prop :=
  ∀ c ∈ text, Text.isBlank c = true ∧ c ≠ '\n'

instance (text : List Char) : Decidable (Gap text) :=
  List.decidableBAll (fun c => Text.isBlank c = true ∧ c ≠ '\n') text

theorem Gap.blank {text : List Char} (gap : Gap text) : ∀ c ∈ text, Text.isBlank c = true :=
  fun c member => (gap c member).1

theorem Gap.inLine {text : List Char} (gap : Gap text) : '\n' ∉ text :=
  fun member => (gap '\n' member).2 rfl

theorem Gap.notMem {text : List Char} (gap : Gap text) {c : Char} (solid : Text.isBlank c = false) :
    c ∉ text := by
  intro member
  rw [gap.blank c member] at solid
  cases solid

inductive Declaration where
  | value (name : Identifier) (text : String)
  | library (name : Identifier) (path : String)

inductive Closing : List Char → Prop
  | bare : Closing []
  | semicolon {gap : List Char} (isGap : Gap gap) : Closing (gap ++ [';'])

inductive Silent : List Char → Prop
  | blank {gap : List Char} (isGap : Gap gap) : Silent gap
  | comment {gap rest : List Char} (isGap : Gap gap) (inLine : '\n' ∉ rest) :
      Silent (gap ++ '/' :: '/' :: rest)

namespace Declaration

def target : Declaration → List Char
  | value name _ => '@' :: name.val.toList
  | library name _ => '$' :: name.val.toList

def content : Declaration → String
  | value _ text => text
  | library _ path => path

/-- The name, an equals sign and the quoted text, with blanks around each. -/
inductive Written (declaration : Declaration) : List Char → Prop
  | mk {lead before after closing last : List Char} (isLead : Gap lead) (isBefore : Gap before)
      (isAfter : Gap after) (closes : Closing closing) (isLast : Gap last) :
      declaration.Written (lead ++ ((declaration.target ++ (before ++ '=' :: (after ++
        ((Value.text declaration.content).render.toList ++ closing)))) ++ last))

def valueName? : Declaration → Option String
  | value name _ => some name.val
  | library .. => none

def library? : Declaration → Option (String × String)
  | value .. => none
  | library name path =>
    if isBuiltinAlias ("$" ++ name.val) then none else some ("$" ++ name.val, path)

def setIn (vars : Variables) : Declaration → Variables
  | value name text => Fields.put vars name.val (vars.substitute text)
  | library .. => vars

end Declaration

/-- Declarations in lines of their own, with lines that say nothing before, between and behind
them. -/
inductive LinesWritten : List Declaration → List (List Char) → Prop
  | nil : LinesWritten [] []
  | silent {declarations : List Declaration} {line : List Char} {lines : List (List Char)}
      (first : Silent line) (more : LinesWritten declarations lines) :
      LinesWritten declarations (line :: lines)
  | cons {declaration : Declaration} {declarations : List Declaration} {line : List Char}
      {lines : List (List Char)} (first : declaration.Written line)
      (more : LinesWritten declarations lines) :
      LinesWritten (declaration :: declarations) (line :: lines)

def Writes (declarations : List Declaration) (content : String) : Prop :=
  ∃ lines, LinesWritten declarations lines ∧ content.toList = Text.joinWith ['\n'] lines

def tableOf (declarations : List Declaration) : Variables :=
  declarations.foldl Declaration.setIn []

def libraries (declarations : List Declaration) : List (String × String) :=
  declarations.filterMap Declaration.library?

section Characters

def isTargetPart (c : Char) : Bool :=
  isIdentifierPart c || c == '@' || c == '$'

theorem Declaration.target_parts (declaration : Declaration) :
    ∀ c ∈ declaration.target, isTargetPart c = true := by
  have letters (name : Identifier) : ∀ c ∈ name.val.toList, isTargetPart c = true := by
    intro c member
    simp [isTargetPart, isIdentifierPart_of_mem name.property member]
  cases declaration with
  | value name text => exact List.forall_mem_cons.mpr ⟨by decide, letters name⟩
  | library name path => exact List.forall_mem_cons.mpr ⟨by decide, letters name⟩

theorem isBlank_of_isTargetPart {c : Char} (part : isTargetPart c = true) : Text.isBlank c = false := by
  have table : ∀ n ∈ Text.blankCodes, isTargetPart (Char.ofNat n) = false := by decide
  by_contra blank
  have found := table c.toNat (Text.toNat_mem_blankCodes (by simpa using blank))
  rw [Char.ofNat_toNat, part] at found
  cases found

theorem inLine_escape (text : List Char) : '\n' ∉ Quoted.escape text := by
  intro member
  obtain ⟨c, _, inside⟩ := List.mem_flatMap.mp member
  by_cases newline : c = '\n'
  · rw [newline] at inside
    exact absurd inside (by decide)
  · grind [Quoted.escapeChar]

theorem toList_quoted (text : String) (rest : List Char) :
    (Value.text text).render.toList ++ rest = '"' :: (Quoted.escape text.toList ++ '"' :: rest) := by
  simp [Value.render, Quoted.quote]

theorem Closing.inLine {closing : List Char} (closes : Closing closing) : '\n' ∉ closing := by
  cases closes with
  | bare => exact List.not_mem_nil
  | semicolon isGap =>
    rw [List.mem_append, not_or]
    exact ⟨isGap.inLine, by decide⟩

theorem Silent.inLine {line : List Char} (silent : Silent line) : '\n' ∉ line := by
  cases silent with
  | blank isGap => exact isGap.inLine
  | comment isGap inLine =>
    have gap := isGap.inLine
    simp [gap, inLine]

theorem Declaration.Written.inLine {declaration : Declaration} {line : List Char}
    (written : declaration.Written line) : '\n' ∉ line := by
  obtain ⟨isLead, isBefore, isAfter, closes, isLast⟩ := written
  have target : '\n' ∉ declaration.target := fun member =>
    absurd (declaration.target_parts _ member) (by decide)
  have quoted := inLine_escape declaration.content.toList
  rw [toList_quoted]
  simp [isLead.inLine, isBefore.inLine, isAfter.inLine, closes.inLine, isLast.inLine, target, quoted]

end Characters

section Lines

theorem Closing.trim {closing : List Char} (closes : Closing closing) :
    Text.trim closing = [] ∨ Text.trim closing = [';'] := by
  cases closes with
  | bare => exact .inl rfl
  | @semicolon gap isGap =>
    right
    have solid : Stops Text.isBlank [';'] := Stops.cons (by decide) []
    exact @Text.trim_append gap [';'] [] isGap.blank (by simp) solid solid

theorem Closing.stops {closing : List Char} (closes : Closing closing) (front : List Char) (text : String) :
    Stops Text.isBlank (front ++ ((Value.text text).render.toList ++ closing)).reverse := by
  rw [toList_quoted]
  cases closes with
  | bare =>
    rw [List.reverse_append, List.reverse_cons, List.reverse_concat]
    exact Stops.cons (by decide) _
  | @semicolon gap isGap =>
    have shape : front ++ '"' :: (Quoted.escape text.toList ++ '"' :: (gap ++ [';'])) =
        (front ++ '"' :: (Quoted.escape text.toList ++ '"' :: gap)) ++ [';'] := by simp
    rw [shape, List.reverse_concat]
    exact Stops.cons (by decide) _

theorem readLiteral_quoted (line : Nat) (text : String) {closing : List Char} (closes : Closing closing) :
    readLiteral line ((Value.text text).render.toList ++ closing) = .ok (.quoted text) := by
  rw [toList_quoted, readLiteral, Quoted.read?_escape]
  simp only
  rw [if_pos closes.trim, String.ofList_toList]

theorem declareVariable_quoted (scope : Scope) (line : Nat) (name : Identifier) (text : String)
    {closing : List Char} (closes : Closing closing) :
    declareVariable scope line name.val.toList ((Value.text text).render.toList ++ closing) =
      .ok { scope with vars := (Declaration.value name text).setIn scope.vars } := by
  simp [declareVariable, readLiteral_quoted line text closes, name.property, Variables.set, Bind.bind,
    Except.bind, Pure.pure, Except.pure, Declaration.setIn]

theorem declareAlias_quoted (scope : Scope) (line : Nat) (name : Identifier) (path : String)
    {closing : List Char} (closes : Closing closing) :
    (declareAlias scope line ('$' :: name.val.toList) name.val.toList
        ((Value.text path).render.toList ++ closing)).result =
      .ok { scope with aliases :=
        ⟨Fields.putAll scope.aliases.declared (Declaration.library name path).library?.toList⟩ } := by
  have called : String.ofList ('$' :: name.val.toList) = "$" ++ name.val := by
    apply String.toList_injective
    simp
  simp only [declareAlias, called, String.ofList_toList, name.property, ↓reduceIte, Warned.result_bind,
    Warned.result_liftM, readLiteral_quoted line path closes, Declaration.library?]
  cases builtin : isBuiltinAlias ("$" ++ name.val) with
  | true =>
    simp only [Aliases.declare, builtin]
    rfl
  | false =>
    simp only [Aliases.declare, builtin]
    rfl

theorem evaluateLine_of_silent {line : List Char} (silent : Silent line) (scope : Scope) (number : Nat) :
    evaluateLine scope number line = pure scope := by
  have nothing : Text.trim line = [] ∨ (Text.afterStart? ['/', '/'] (Text.trim line)).isSome = true := by
    cases silent with
    | blank isGap =>
      left
      have trimmed := @Text.trim_append line [] [] isGap.blank (by simp) (Stops.nil _) (Stops.nil _)
      simpa using trimmed
    | @comment gap rest isGap inLine =>
      right
      have slashes : Stops Text.isBlank ['/', '/'].reverse := Stops.cons (by decide) _
      have start : Text.trimStart (gap ++ '/' :: '/' :: rest) = ['/', '/'] ++ rest :=
        Stops.dropWhile_append isGap.blank (Stops.cons (by decide) _)
      rw [Text.trim, start, Text.trimEnd_append slashes, Text.afterStart?_append]
      rfl
  simp only [evaluateLine]
  rw [if_pos nothing]

theorem Declaration.stops_target (declaration : Declaration) (rest : List Char) :
    Stops Text.isBlank (declaration.target ++ rest) := by
  cases declaration <;> exact Stops.cons (by decide) _

theorem evaluateLine_of_written {declaration : Declaration} {line : List Char}
    (written : declaration.Written line) (scope : Scope) (number : Nat) :
    (evaluateLine scope number line).result =
      .ok ⟨declaration.setIn scope.vars,
        ⟨Fields.putAll scope.aliases.declared declaration.library?.toList⟩⟩ := by
  obtain @⟨lead, before, after, closing, last, isLead, isBefore, isAfter, closes, isLast⟩ := written
  have parts := declaration.target_parts
  have quoted := closes.stops [] declaration.content
  generalize value : (Value.text declaration.content).render.toList ++ closing = text at *
  have trimmed : Text.trim (lead ++ ((declaration.target ++ (before ++ '=' :: (after ++ text))) ++ last)) =
      declaration.target ++ (before ++ '=' :: (after ++ text)) := by
    refine Text.trim_append isLead.blank isLast.blank (declaration.stops_target _) ?_
    have whole := closes.stops (declaration.target ++ (before ++ '=' :: after)) declaration.content
    rw [value] at whole
    simpa using whole
  have cut : Text.cutAt? '=' (declaration.target ++ (before ++ '=' :: (after ++ text))) =
      some (declaration.target ++ before, after ++ text) := by
    refine Text.cutAt?_eq_some_iff.mpr ⟨by simp, ?_⟩
    rw [List.mem_append, not_or]
    exact ⟨fun member => absurd (parts _ member) (by decide), isBefore.notMem (by decide)⟩
  have left : Text.trim (declaration.target ++ before) = declaration.target := by
    refine @Text.trim_append [] _ _ (by simp) isBefore.blank ?_ ?_
    · simpa using declaration.stops_target []
    · intro c member
      exact isBlank_of_isTargetPart (parts c (List.mem_reverse.mp (List.mem_of_mem_head? member)))
  have right : Text.trim (after ++ text) = text := by
    have opened : Stops Text.isBlank text := by
      rw [← value, toList_quoted]
      exact Stops.cons (by decide) _
    simpa using @Text.trim_append after text [] isAfter.blank (by simp) opened quoted
  have loud : ¬ (declaration.target ++ (before ++ '=' :: (after ++ text)) = [] ∨
      (Text.afterStart? ['/', '/']
        (declaration.target ++ (before ++ '=' :: (after ++ text)))).isSome = true) := by
    cases declaration <;> simp [Declaration.target, Text.afterStart?]
  simp only [evaluateLine, trimmed]
  rw [if_neg loud, cut]
  simp only [left, right]
  subst value
  cases declaration with
  | value name text => exact declareVariable_quoted scope number name text closes
  | library name path => exact declareAlias_quoted scope number name path closes

theorem evaluateLines_append (scope : Scope) (number : Nat) (before after : List (List Char)) :
    (evaluateLines scope number (before ++ after)).result =
      (evaluateLines scope number before).result >>= fun later =>
        (evaluateLines later (number + before.length) after).result := by
  induction before generalizing scope number with
  | nil => rfl
  | cons line before ih =>
    rw [List.cons_append, evaluateLines, evaluateLines, Warned.result_bind, Warned.result_bind]
    cases (evaluateLine scope number line).result with
    | error e => rfl
    | ok later =>
      have count : number + (line :: before).length = number + 1 + before.length := by
        rw [List.length_cons]
        omega
      rw [count]
      exact ih later (number + 1)

/-- What is left to declare is declared in the scope that the lines before it have made. -/
theorem evaluateLines_of_written {declarations : List Declaration} {lines : List (List Char)}
    (written : LinesWritten declarations lines) (scope : Scope) (number : Nat) :
    (evaluateLines scope number lines).result =
      .ok ⟨declarations.foldl Declaration.setIn scope.vars,
        ⟨Fields.putAll scope.aliases.declared (libraries declarations)⟩⟩ := by
  induction written generalizing scope number with
  | nil => rfl
  | silent first more ih =>
    rw [evaluateLines, evaluateLine_of_silent first, Warned.result_bind, ← ih scope (number + 1)]
    rfl
  | @cons declaration declarations line lines first more ih =>
    have split : libraries (declaration :: declarations) =
        declaration.library?.toList ++ libraries declarations := by
      cases found : declaration.library? <;> simp [libraries, found]
    rw [evaluateLines, Warned.result_bind, evaluateLine_of_written first, split, List.foldl_cons,
      Fields.putAll_append]
    exact ih ⟨_, ⟨_⟩⟩ (number + 1)

theorem LinesWritten.inLine {declarations : List Declaration} {lines : List (List Char)}
    (written : LinesWritten declarations lines) : ∀ line ∈ lines, '\n' ∉ line := by
  induction written with
  | nil => simp
  | silent first more ih => exact List.forall_mem_cons.mpr ⟨first.inLine, ih⟩
  | cons first more ih => exact List.forall_mem_cons.mpr ⟨first.inLine, ih⟩

theorem evaluateLines_joinWith {content : String} {parts : List (List Char)}
    (joined : content.toList = Text.joinWith ['\n'] parts) (inLine : ∀ part ∈ parts, '\n' ∉ part)
    (scope : Scope) (number : Nat) :
    evaluateLines scope number (lines content) = evaluateLines scope number parts := by
  rw [lines, joined]
  by_cases filled : parts = []
  · -- what is joined from no lines at all is read as one empty line
    subst filled
    rfl
  · rw [Text.splitWhere_joinWith (by decide) filled]
    intro part member c inside
    rw [beq_eq_false_iff_ne]
    rintro rfl
    exact inLine part member inside

theorem evaluate_of_writes {declarations : List Declaration} {content : String}
    (writes : Writes declarations content) (firstLine : Nat) :
    (evaluate content firstLine).result =
      .ok ⟨tableOf declarations, ⟨Fields.ofPairs (libraries declarations)⟩⟩ := by
  obtain ⟨lines, written, joined⟩ := writes
  rw [evaluate, evaluateLines_joinWith joined written.inLine]
  exact evaluateLines_of_written written .empty firstLine

end Lines

section Table

theorem tableOf_concat (declarations : List Declaration) (declaration : Declaration) :
    tableOf (declarations ++ [declaration]) = declaration.setIn (tableOf declarations) := by
  simp [tableOf]

theorem keys_tableOf (declarations : List Declaration) :
    Fields.keys (tableOf declarations) = (declarations.filterMap Declaration.valueName?).eraseDups := by
  induction declarations using List.reverseRecOn with
  | nil => rfl
  | append_singleton declarations declaration ih =>
    rw [tableOf_concat, List.filterMap_append]
    cases declaration with
    | library name path =>
      have nothing : [Declaration.library name path].filterMap Declaration.valueName? = [] := rfl
      rw [Declaration.setIn, ih, nothing, List.append_nil]
    | value name text =>
      have given : [Declaration.value name text].filterMap Declaration.valueName? = [name.val] := rfl
      rw [Declaration.setIn, Fields.keys_put, ih, given, Fields.eraseDups_concat]
      simp only [List.mem_eraseDups]

theorem value?_tableOf {before after : List Declaration} {name : Identifier} (text : String)
    (last : name.val ∉ after.filterMap Declaration.valueName?) :
    Fields.value? (tableOf (before ++ .value name text :: after)) name.val =
      some ((tableOf before).substitute text) := by
  induction after using List.reverseRecOn with
  | nil =>
    rw [tableOf_concat, Declaration.setIn, Fields.value?_put_self]
  | append_singleton after declaration ih =>
    rw [List.filterMap_append, List.mem_append, not_or] at last
    rw [← List.cons_append, ← List.append_assoc, tableOf_concat]
    cases declaration with
    | library other path => exact ih last.1
    | value other later =>
      have apart : name.val ≠ other.val := by
        intro same
        exact last.2 (by simp [Declaration.valueName?, same])
      rw [Declaration.setIn, Fields.value?_put_of_ne _ _ apart]
      exact ih last.1

end Table

/-- A script that is written with quoted texts is evaluated, whatever stands in the texts. Its
variables and aliases are the declared ones in the order of their first declarations, with the texts
and paths of the last ones; only the texts of variables have references replaced. -/
theorem evaluate_reads_back {declarations : List Declaration} {content : String}
    (writes : Writes declarations content) (firstLine : Nat) :
    ∃ scope, (evaluate content firstLine).result = .ok scope ∧
      scope.vars = tableOf declarations ∧
      Fields.keys scope.vars = (declarations.filterMap Declaration.valueName?).eraseDups ∧
      (∀ before name text after, declarations = before ++ .value name text :: after →
        name.val ∉ after.filterMap Declaration.valueName? →
        Fields.value? scope.vars name.val = some ((tableOf before).substitute text)) ∧
      Fields.keys scope.aliases.declared = (Fields.keys (libraries declarations)).eraseDups ∧
      ∀ name, scope.aliases.path? name = Fields.value? (libraries declarations).reverse name := by
  refine ⟨_, evaluate_of_writes writes firstLine, rfl, keys_tableOf declarations, ?_,
    Fields.keys_ofPairs _, fun name => Fields.value?_ofPairs _ name⟩
  rintro before name text after rfl last
  exact value?_tableOf text last

theorem evaluate_reads_back_shop :
    let declarations : List Declaration := [.value ⟨"a", rfl⟩ "x\"=;//", .value ⟨"b", rfl⟩ "@a!\n@c",
      .library ⟨"Shop", rfl⟩ "@a.ui", .library ⟨"COMMON", rfl⟩ "p", .value ⟨"a", rfl⟩ "2"]
    let content := "// shared\n\t@a = \"x\\\"=;//\" ;\n\n@b=\"@a!\\n@c\"\n $Shop =\t\"@a.ui\"; \r\n" ++
      "$COMMON = \"p\"\n@a = \"2\"\n"
    Writes declarations content ∧
      ∃ scope, (evaluate content 7).result = .ok scope ∧
        scope.vars = [("a", "2"), ("b", "x\"=;//!\n@c")] ∧
        Fields.keys scope.aliases.declared = ["$Shop"] ∧ scope.aliases.path? "$Shop" = some "@a.ui" := by
  intro declarations content
  have writes : Writes declarations content := by
    refine ⟨["// shared".toList, "\t@a = \"x\\\"=;//\" ;".toList, [], "@b=\"@a!\\n@c\"".toList,
      " $Shop =\t\"@a.ui\"; \r".toList, "$COMMON = \"p\"".toList, "@a = \"2\"".toList, []], ?_, by decide +kernel⟩
    refine .silent (@Silent.comment [] " shared".toList (by decide) (by decide)) ?_
    refine .cons (@Declaration.Written.mk (.value ⟨"a", rfl⟩ "x\"=;//") ['\t'] [' '] [' '] " ;".toList []
      (by decide) (by decide) (by decide) (@Closing.semicolon [' '] (by decide)) (by decide)) ?_
    refine .silent (.blank (by decide)) ?_
    refine .cons (@Declaration.Written.mk (.value ⟨"b", rfl⟩ "@a!\n@c") [] [] [] [] []
      (by decide) (by decide) (by decide) .bare (by decide)) ?_
    refine .cons (@Declaration.Written.mk (.library ⟨"Shop", rfl⟩ "@a.ui") [' '] [' '] ['\t'] [';'] [' ', '\r']
      (by decide) (by decide) (by decide) (@Closing.semicolon [] (by decide)) (by decide)) ?_
    refine .cons (@Declaration.Written.mk (.library ⟨"COMMON", rfl⟩ "p") [] [' '] [' '] [] []
      (by decide) (by decide) (by decide) .bare (by decide)) ?_
    refine .cons (@Declaration.Written.mk (.value ⟨"a", rfl⟩ "2") [] [' '] [' '] [] []
      (by decide) (by decide) (by decide) .bare (by decide)) ?_
    exact .silent (.blank (by decide)) .nil
  obtain ⟨scope, evaluated, vars, _, _, keys, paths⟩ := evaluate_reads_back writes 7
  refine ⟨writes, scope, evaluated, ?_, ?_, ?_⟩
  · rw [vars]
    decide +kernel
  · rw [keys]
    decide +kernel
  · rw [paths]
    decide +kernel

end Script

end UiMarkup
