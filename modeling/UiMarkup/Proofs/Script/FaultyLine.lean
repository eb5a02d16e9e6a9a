import UiMarkup.Proofs.Markup.Places
import UiMarkup.Proofs.Script.Written

namespace UiMarkup

/-- A script block stands before the elements of a source, whether or not those can be read. -/
def Document.FindsScript (source : String) (script : ScriptBlock) : Prop :=
  ∃ later, Reader.readHead source.toList = .ok (some script, later)

theorem Document.findsScript_of_parse {source : String} {document : Document} {script : ScriptBlock}
    (parsed : Document.parse source = .ok document) (present : document.script = some script) :
    Document.FindsScript source script := by
  unfold Document.parse at parsed
  rw [Reader.readDocument_eq] at parsed
  obtain ⟨⟨found, later⟩, head, parsed⟩ := ok_of_bind parsed
  obtain ⟨elements, run, done⟩ := ok_of_bind parsed
  cases done
  cases present
  exact ⟨later, head⟩

def Error.scriptLine? : Error → Option Nat
  | .script line _ => some line
  | .unterminatedLiteral line => some line
  | _ => none

namespace Script

section Lines

def unended (line : List Char) : List Char :=
  (Text.beforeEnd? ['\r'] line).getD line

theorem unended_cases (line : List Char) : unended line = line ∨ line = unended line ++ ['\r'] := by
  unfold unended
  cases found : Text.beforeEnd? ['\r'] line with
  | none => exact .inl rfl
  | some before => exact .inr (Text.eq_of_beforeEnd? found)

theorem trim_unended (line : List Char) : Text.trim (unended line) = Text.trim line := by
  rcases unended_cases line with same | ended
  · rw [same]
  · have blank := Text.trim_append_blanks (unended line) (List.forall_mem_singleton.mpr
      (show Text.isBlank '\r' = true by decide))
    rw [← ended] at blank
    exact blank.symm

/-- Lines without their ends, which are a line feed or a carriage return and a line feed; behind the
last line feed there is a line only if it has characters. -/
def withoutEnds : List (List Char) → List (List Char)
  | [] => []
  | [last] => if last = [] then [] else [last]
  | line :: next :: rest => unended line :: withoutEnds (next :: rest)

def contentLines (content : String) : List (List Char) :=
  withoutEnds (lines content)

theorem getElem?_withoutEnds {pieces : List (List Char)} {i : Nat} {line : List Char}
    (here : (withoutEnds pieces)[i]? = some line) :
    ∃ piece, pieces[i]? = some piece ∧ line <+: piece := by
  fun_induction withoutEnds pieces generalizing i with
  | case1 => cases here
  | case2 => cases here
  | case3 last filled => exact ⟨line, here, List.prefix_refl line⟩
  | case4 first next rest ih =>
    cases i with
    | zero =>
      cases here
      refine ⟨first, rfl, ?_⟩
      rcases unended_cases first with same | ended
      · rw [same]
      · exact ⟨['\r'], ended.symm⟩
    | succ i => exact ih here

theorem evaluateLines_withoutEnds (scope : Scope) (number : Nat) (pieces : List (List Char)) :
    evaluateLines scope number (withoutEnds pieces) = evaluateLines scope number pieces := by
  fun_induction withoutEnds pieces generalizing scope number with
  | case1 => rfl
  | case2 =>
    have silent : Silent [] := .blank (by decide)
    rw [evaluateLines, evaluateLines, evaluateLine_of_silent silent]
    rfl
  | case3 => rfl
  | case4 first next rest ih =>
    have same : evaluateLine scope number (unended first) = evaluateLine scope number first := by
      simp only [evaluateLine, trim_unended]
    rw [evaluateLines, evaluateLines, same]
    simp only [ih]

theorem evaluate_eq (content : String) (number : Nat) :
    evaluate content number = evaluateLines .empty number (contentLines content) :=
  (evaluateLines_withoutEnds _ _ _).symm

theorem inLine_of_mem_contentLines {content : String} {line : List Char}
    (member : line ∈ contentLines content) : '\n' ∉ line := by
  obtain ⟨i, here⟩ := List.mem_iff_getElem?.mp member
  obtain ⟨piece, found, start⟩ := getElem?_withoutEnds here
  intro inside
  have kept := Text.not_cut_of_mem_splitWhere (List.mem_of_getElem? found) '\n' (start.subset inside)
  contradiction

def firstLines (content : String) (count : Nat) : String :=
  String.ofList (Text.joinWith ['\n'] ((contentLines content).take count))

theorem evaluate_firstLines (content : String) (count number : Nat) :
    evaluate (firstLines content count) number =
      evaluateLines .empty number ((contentLines content).take count) := by
  have inLine : ∀ line ∈ (contentLines content).take count, '\n' ∉ line := by
    intro line member
    exact inLine_of_mem_contentLines (List.mem_of_mem_take member)
  exact evaluateLines_joinWith String.toList_ofList inLine .empty number

end Lines

section Errors

def Targets (line : List Char) (name : String) : Prop :=
  ∃ lead gap rest, (∀ c ∈ lead, Text.isBlank c = true) ∧ (∀ c ∈ gap, Text.isBlank c = true) ∧
    '=' ∉ name.toList ∧ line = lead ++ '@' :: (name.toList ++ (gap ++ '=' :: rest))

/-- What the error of a line says: the number of the line, or the name to which it gives a value. -/
inductive Blames (number : Nat) (line : List Char) : Error → Prop
  | statement (fault : ScriptFault) : Blames number line (.script number fault)
  | literal : Blames number line (.unterminatedLiteral number)
  | target {name : String} (targets : Targets line name) : Blames number line (.variableName name)

theorem Blames.line_eq {number n : Nat} {line : List Char} {e : Error} (blames : Blames number line e)
    (named : e.scriptLine? = some n) : n = number := by
  cases blames with
  | statement fault => exact (Option.some.inj named).symm
  | literal => exact (Option.some.inj named).symm
  | target targets => cases named

theorem Blames.targets {number : Nat} {line : List Char} {name : String}
    (blames : Blames number line (.variableName name)) : Targets line name := by
  cases blames with
  | target targets => exact targets

variable {scope : Scope} {number : Nat} {line value : List Char} {e : Error}

theorem blames_readLiteral (h : readLiteral number value = .error e) : Blames number line e := by
  unfold readLiteral at h
  split at h
  · split at h
    · cases h
      exact .literal
    · simp only at h
      split at h
      · cases h
      · cases h
        exact .statement _
  · simp only [readBare] at h
    split at h
    · cases h
    · split at h
      · cases h
        exact .statement _
      · cases h
        exact .statement _

theorem blames_declareVariable {name : List Char} (h : declareVariable scope number name value = .error e)
    (targets : Targets line (String.ofList name)) : Blames number line e := by
  unfold declareVariable at h
  cases valid : isIdentifier (String.ofList name) with
  | false =>
    simp only [valid] at h
    cases h
    exact .target targets
  | true =>
    simp only [valid] at h
    rcases error_of_bind h with read | ⟨literal, _, h⟩
    · exact blames_readLiteral read
    · simp only [Variables.set, valid] at h
      cases h

theorem blames_declareAlias {target name : List Char}
    (h : (declareAlias scope number target name value).result = .error e) : Blames number line e := by
  unfold declareAlias at h
  cases valid : isIdentifier (String.ofList name) with
  | false =>
    simp only [valid] at h
    cases h
    exact .statement _
  | true =>
    simp only [valid, ↓reduceIte, Warned.result_bind] at h
    rcases error_of_bind h with read | ⟨literal, _, h⟩
    · exact blames_readLiteral read
    · cases literal with
      | bare text =>
        cases h
        exact .statement _
      | quoted path =>
        cases builtin : isBuiltinAlias (String.ofList target) with
        | true =>
          simp only [Aliases.declare, builtin] at h
          cases h
        | false =>
          simp only [Aliases.declare, builtin] at h
          cases h

theorem blames_evaluateLine (h : (evaluateLine scope number line).result = .error e) :
    Blames number line e := by
  obtain ⟨lead, tail, isLead, _, whole, _, _⟩ := Text.exists_trim line
  simp only [evaluateLine] at h
  split at h
  · cases h
  · split at h
    · cases h
      exact .statement _
    · rename_i left right cut
      obtain ⟨parts, first⟩ := Text.cutAt?_eq_some_iff.mp cut
      split at h
      · rename_i name isTarget
        apply blames_declareVariable h
        obtain ⟨before, gap, isBefore, isGap, written, _, _⟩ := Text.exists_trim left
        rw [isTarget] at written
        have inName : '=' ∉ name := by
          intro member
          apply first
          rw [written]
          simp [member]
        refine ⟨lead ++ before, gap, right ++ tail, ?_, isGap, ?_, ?_⟩
        · exact List.forall_mem_append.mpr ⟨isLead, isBefore⟩
        · rw [String.toList_ofList]
          exact inName
        · rw [whole, parts, written, String.toList_ofList]
          simp
      · exact blames_declareAlias h
      · cases h
        exact .statement _

theorem not_silent_of_error (h : (evaluateLine scope number line).result = .error e) : ¬ Silent line := by
  intro silent
  rw [evaluateLine_of_silent silent] at h
  cases h

theorem exists_line_of_error {lines : List (List Char)}
    (h : (evaluateLines scope number lines).result = .error e) :
    ∃ before line after later, lines = before ++ line :: after ∧
      (evaluateLines scope number before).result = .ok later ∧
      (evaluateLine later (number + before.length) line).result = .error e := by
  induction lines generalizing scope number with
  | nil => cases h
  | cons line lines ih =>
    rw [evaluateLines, Warned.result_bind] at h
    rcases error_of_bind h with here | ⟨scope', here, h⟩
    · exact ⟨[], line, lines, scope, rfl, rfl, here⟩
    · obtain ⟨before, failing, after, later, split, passed, fails⟩ := ih h
      refine ⟨line :: before, failing, after, later, by rw [split]; rfl, ?_, ?_⟩
      · rw [evaluateLines, Warned.result_bind, here]
        exact passed
      · have count : number + (line :: before).length = number + 1 + before.length := by
          rw [List.length_cons]
          omega
        rw [count]
        exact fails

end Errors

/-- The line of a script at which its evaluation fails: it says something, the lines before it are
evaluated, and with it they are not. -/
structure FailsAt (script : ScriptBlock) (i : Nat) (line : List Char) (e : Error) : Prop where
  here : (contentLines script.content)[i]? = some line
  loud : ¬ Silent line
  passed : ∃ scope, (evaluate (firstLines script.content i) script.line).result = .ok scope
  failed : (evaluate (firstLines script.content (i + 1)) script.line).result = .error e

theorem exists_failsAt {script : ScriptBlock} {e : Error}
    (failed : (evaluate script.content script.line).result = .error e) :
    ∃ i line, FailsAt script i line e ∧ Blames (script.line + i) line e := by
  rw [evaluate_eq] at failed
  obtain ⟨before, line, after, scope, split, passed, fails⟩ := exists_line_of_error failed
  have here : (contentLines script.content)[before.length]? = some line := by
    rw [split, List.getElem?_append_right (Nat.le_refl _), Nat.sub_self]
    rfl
  have upTo : (contentLines script.content).take before.length = before := by
    rw [split, List.take_left]
  have withIt : (contentLines script.content).take (before.length + 1) = before ++ [line] := by
    rw [List.take_add_one, upTo, here]
    rfl
  refine ⟨before.length, line, ⟨here, not_silent_of_error fails, ⟨scope, ?_⟩, ?_⟩, blames_evaluateLine fails⟩
  · rw [evaluate_firstLines, upTo]
    exact passed
  · rw [evaluate_firstLines, withIt, evaluateLines_append, passed]
    show (evaluateLines scope _ [line]).result = .error e
    rw [evaluateLines, Warned.result_bind, fails]
    rfl

/-- A line of a script stands in the line of the document with its number. -/
theorem infix_source_line {source : String} {script : ScriptBlock} {i : Nat} {line : List Char}
    (found : Document.FindsScript source script) (here : (contentLines script.content)[i]? = some line) :
    ∃ whole, (Text.lines source.toList)[script.line + i - 1]? = some whole ∧ line <:+: whole := by
  obtain ⟨later, head⟩ := found
  obtain ⟨before, after, split, number⟩ := (Reader.readHead_reads head).2 script rfl
  obtain ⟨piece, inContent, start⟩ := getElem?_withoutEnds here
  have inText : (Text.lines script.content.toList)[i]? = some piece := inContent
  obtain ⟨whole, inSource, inside⟩ := @Position.infix_line before _ after _ _ inText
  rw [← split, ← number] at inSource
  exact ⟨whole, inSource, start.isInfix.trans inside⟩

/-- If a script cannot be evaluated, the line that the error names is the first one that cannot: it
is a line of the script that is neither blank nor a comment, the lines before it are evaluated, with
it they are not, and it stands in the line of the document that has this number. An error that names
a variable is about the name in that line. -/
theorem fails_at_named_line {source : String} {script : ScriptBlock} {e : Error}
    (found : Document.FindsScript source script)
    (failed : (evaluate script.content script.line).result = .error e) :
    (∀ n, e.scriptLine? = some n →
      script.line ≤ n ∧ ∃ line, FailsAt script (n - script.line) line e ∧
        ∃ whole, (Text.lines source.toList)[n - 1]? = some whole ∧ line <:+: whole) ∧
    ∀ name, e = .variableName name → ∃ i line, FailsAt script i line e ∧ Targets line name := by
  obtain ⟨i, line, fails, blames⟩ := exists_failsAt failed
  constructor
  · intro n named
    have isNumber := blames.line_eq named
    have index : n - script.line = i := by omega
    refine ⟨by omega, line, ?_, ?_⟩
    · rw [index]
      exact fails
    · rw [isNumber]
      exact infix_source_line found fails.here
  · intro name isName
    subst isName
    exact ⟨i, line, fails, blames.targets⟩

theorem fails_at_named_line_breaks :
    let source := "<!-- a\r\n -->\n<Script type='text/customui'\n>// b\r\n@A = \"1\"\r\n\r\n\t$B = 2\r\n$C = 3</Script><Row/>"
    let unclosed := " <Script type=text/customui>@A = 1\n\n@ B = \"@A\"</Script><Row>"
    (∃ script, Document.FindsScript source script ∧
      (evaluate script.content script.line).result = .error (.script 7 (.unquotedPath "$B")) ∧
      script.line ≤ 7 ∧ ∃ line, FailsAt script (7 - script.line) line (.script 7 (.unquotedPath "$B")) ∧
        ∃ whole, (Text.lines source.toList)[7 - 1]? = some whole ∧ line <:+: whole) ∧
    ∃ script, Document.FindsScript unclosed script ∧
      (evaluate script.content script.line).result = .error (.variableName " B") ∧
      ∃ i line, FailsAt script i line (.variableName " B") ∧ Targets line " B" := by
  intro source unclosed
  have first : (Document.parse source).toOption.map Document.script =
      some (some ⟨"// b\r\n@A = \"1\"\r\n\r\n\t$B = 2\r\n$C = 3", 4⟩) := by decide +kernel
  have second : (Reader.readHead unclosed.toList).toOption.map Prod.fst =
      some (some ⟨"@A = 1\n\n@ B = \"@A\"", 1⟩) := by decide +kernel
  obtain ⟨document, parsed, present⟩ := ok_of_toOption_map first
  obtain ⟨⟨script, later⟩, head, isScript⟩ := ok_of_toOption_map second
  cases isScript
  have found := Document.findsScript_of_parse parsed present
  have path : (evaluate "// b\r\n@A = \"1\"\r\n\r\n\t$B = 2\r\n$C = 3" 4).result =
      .error (.script 7 (.unquotedPath "$B")) := by
    apply error_iff.mpr
    decide +kernel
  have name : (evaluate "@A = 1\n\n@ B = \"@A\"" 1).result = .error (.variableName " B") := by
    apply error_iff.mpr
    decide +kernel
  obtain ⟨after, line⟩ := (fails_at_named_line found path).1 7 rfl
  have target := (fails_at_named_line ⟨later, head⟩ name).2 " B" rfl
  exact ⟨⟨_, found, path, after, line⟩, _, ⟨later, head⟩, name, target⟩

end Script

end UiMarkup
