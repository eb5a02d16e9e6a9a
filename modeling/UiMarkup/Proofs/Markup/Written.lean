import UiMarkup.Proofs.Markup.Spelling
import UiMarkup.Proofs.Markup.WellFormed

namespace UiMarkup

def Blanks (text : List Char) : Prop :=
  ∀ c ∈ text, Text.isBlank c = true

instance (text : List Char) : Decidable (Blanks text) :=
  List.decidableBAll (Text.isBlank · = true) text

/-- A comment, from `<!--` to the first `-->`; the two may share dashes. -/
def IsComment (text : List Char) : Prop :=
  ['<', '!', '-', '-'] <+: text ∧
    ∃ before, text = before ++ ['-', '-', '>'] ∧ ¬ ['-', '-', '>'] <:+: before ++ ['-', '-']

inductive Trivia : List Char → Prop
  | blanks {gap : List Char} (isGap : Blanks gap) : Trivia gap
  | comment {gap text rest : List Char} (isGap : Blanks gap) (isComment : IsComment text)
      (more : Trivia rest) : Trivia (gap ++ text ++ rest)

/-- A value in double or single quotes. Inside them the quote itself and `&` are entities, and every
other character may be one. -/
inductive QuotedValue (value : String) : List Char → Prop
  | mk {quote : Char} {raw : List Char} (kind : quote = '"' ∨ quote = '\'')
      (spelled : Entity.Spells (· ≠ quote) value.toList raw) :
      QuotedValue value (quote :: raw ++ [quote])

def Attribute.writtenName (given : Attribute) : List Char :=
  if given.binding then ':' :: given.name.toList else given.name.toList

inductive Attribute.Written (given : Attribute) : List Char → Prop
  | bare (absent : given.value = none) : given.Written given.writtenName
  | valued {value : String} {before after text : List Char} (present : given.value = some value)
      (gap : Blanks before) (gapAfter : Blanks after) (quoted : QuotedValue value text) :
      given.Written (given.writtenName ++ (before ++ '=' :: (after ++ text)))

inductive AttributesWritten : List Attribute → List Char → Prop
  | nil {gap : List Char} (isGap : Blanks gap) : AttributesWritten [] gap
  | cons {given : Attribute} {others : List Attribute} {gap text rest : List Char}
      (apart : gap ≠ []) (isGap : Blanks gap) (first : given.Written text)
      (more : AttributesWritten others rest) :
      AttributesWritten (given :: others) (gap ++ (text ++ rest))

mutual

/-- An element without content may be closed by its opening tag, and a void one needs no closing at
all. The closing tag repeats the name in any ASCII letter case. -/
inductive Element.Written : Element → List Char → Prop
  | complete {element : Element} {attributes : List Char} (empty : element.children = [])
      (given : AttributesWritten element.attributes attributes) :
      element.Written ('<' :: (element.tag.toList ++ (attributes ++ ['/', '>'])))
  | void {element : Element} {attributes : List Char} (isVoid : isVoid element.tag = true)
      (given : AttributesWritten element.attributes attributes) :
      element.Written ('<' :: (element.tag.toList ++ (attributes ++ ['>'])))
  | enclosing {element : Element} {attributes inner closing gap : List Char}
      (notVoid : isVoid element.tag = false)
      (given : AttributesWritten element.attributes attributes)
      (inside : Content.Written true element.children inner)
      (same : Text.lowered closing = Text.lowered element.tag.toList) (isGap : Blanks gap) :
      element.Written ('<' :: (element.tag.toList ++ (attributes ++ '>' :: (inner ++
        '<' :: '/' :: (closing ++ (gap ++ ['>']))))))

/-- The content of an element. Texts are laid out with any blanks that collapse to them, and blanks
alone may stand where no text is. Where `free` is false a text has just ended, and what follows is a
comment, an element or the end: so a comment separates neighbouring texts. -/
inductive Content.Written : (free : Bool) → List (Content Element) → List Char → Prop
  | nil {free : Bool} : Content.Written free [] []
  | comment {free : Bool} {content : List (Content Element)} {text rest : List Char}
      (isComment : IsComment text) (more : Content.Written true content rest) :
      Content.Written free content (text ++ rest)
  | gap {content : List (Content Element)} {laid raw rest : List Char} (filled : laid ≠ [])
      (isGap : Blanks laid) (spelled : Entity.Spells (· ≠ '<') laid raw)
      (more : Content.Written false content rest) : Content.Written true content (raw ++ rest)
  | text {content : List (Content Element)} {text : String} {laid raw rest : List Char}
      (collapsed : Text.collapse laid = text.toList) (spelled : Entity.Spells (· ≠ '<') laid raw)
      (more : Content.Written false content rest) :
      Content.Written true (.text text :: content) (raw ++ rest)
  | element {free : Bool} {content : List (Content Element)} {element : Element}
      {text rest : List Char} (first : element.Written text)
      (more : Content.Written true content rest) :
      Content.Written free (.element element :: content) (text ++ rest)

end

inductive ElementsWritten : List Element → List Char → Prop
  | nil {gap : List Char} (trivia : Trivia gap) : ElementsWritten [] gap
  | cons {element : Element} {others : List Element} {gap text rest : List Char}
      (trivia : Trivia gap) (first : element.Written text) (more : ElementsWritten others rest) :
      ElementsWritten (element :: others) (gap ++ (text ++ rest))

def HasScriptKind (attributes : List Attribute) : Prop :=
  ∃ before given after, attributes = before ++ given :: after ∧
    Text.sameLetters given.name "type" = true ∧ given.value = some Reader.scriptKind ∧
    ∀ other ∈ after, Text.sameLetters other.name "type" = false

inductive ScriptBlock.Written (script : ScriptBlock) : List Char → Prop
  | mk {given : List Attribute} {tag attributes closing gap : List Char}
      (opens : Text.lowered tag = "script".toList) (wellFormed : ∀ a ∈ given, a.WellFormed)
      (kind : HasScriptKind given) (written : AttributesWritten given attributes)
      (closes : Text.lowered closing = scriptEnd) (isGap : Blanks gap) :
      script.Written ('<' :: (tag ++ (attributes ++ '>' :: (script.content.toList ++
        (closing ++ (gap ++ ['>']))))))

inductive Document.Written (document : Document) : List Char → Prop
  | plain {text : List Char} (absent : document.script = none)
      (elements : ElementsWritten document.elements text) : document.Written text
  | scripted {script : ScriptBlock} {gap block rest : List Char}
      (present : document.script = some script) (trivia : Trivia gap) (first : script.Written block)
      (elements : ElementsWritten document.elements rest) :
      document.Written (gap ++ (block ++ rest))

end UiMarkup
