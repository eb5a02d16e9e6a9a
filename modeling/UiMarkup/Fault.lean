import UiMarkup.Text.Quoted

namespace UiMarkup

open Text (quoted)

inductive MarkupFault where
  | textOutside
  | strayClosing
  | endInsideTag
  | unexpected (found : Char)
  | emptyBinding
  | unterminatedValue
  | missingValue
  | missingValueAtEnd
  | missingName
  | expected (wanted : Char) (found : Option Char)
  | mismatched (opening closing : String)
  | unclosed (tag : String)
  | unclosedScript
  | unclosedComment
  | tooDeep (limit : Nat)
deriving DecidableEq, Repr

def MarkupFault.message : MarkupFault → String
  | textOutside => "Text outside of an element"
  | strayClosing => "Closing tag without a matching opening tag"
  | endInsideTag => "Unexpected end of input inside a tag"
  | unexpected found => s!"Unexpected '{found}' in attribute list"
  | emptyBinding => "Empty binding attribute name"
  | unterminatedValue => "Unterminated attribute value"
  | missingValue => "Expected attribute value"
  | missingValueAtEnd => "Expected attribute value, found EOF"
  | missingName => "Expected tag name"
  | expected wanted (some found) => s!"Expected '{wanted}', found '{found}'"
  | expected wanted none => s!"Expected '{wanted}', found EOF"
  | mismatched opening closing => s!"Mismatched tags: opening <{opening}> vs closing </{closing}>"
  | unclosed tag => s!"Unclosed <{tag}>"
  | unclosedScript => "Unclosed <script> block"
  | unclosedComment => "Unclosed comment"
  | tooDeep limit => s!"Elements nested deeper than {limit} levels"

inductive ScriptFault where
  | notDeclaration (line : String)
  | invalidAlias (target : String)
  | unquotedPath (aliasName : String)
  | invalidTarget (target : String)
  | trailing (text : String)
  | singleQuotes
  | notLiteral (text : String)
deriving DecidableEq, Repr

def ScriptFault.message : ScriptFault → String
  | notDeclaration line => "expected `@Name = value` or `$Alias = \"path\"`, found " ++ quoted line
  | invalidAlias target => "invalid alias name " ++ quoted target
  | unquotedPath aliasName => s!"alias {aliasName} must be bound to a quoted path"
  | invalidTarget target =>
    "declaration target " ++ quoted target ++ " must start with '@' (variable) or '$' (alias)"
  | trailing text => "unexpected " ++ quoted text ++ " after string literal"
  | singleQuotes => "string literals use double quotes"
  | notLiteral text => "expected a quoted string, number or boolean, found " ++ quoted text

inductive StyleFault where
  | missingColon
  | missingValue
  | notNumber (text : String)
  | notLength (text : String)
  | boxCount (count : Nat)
  | notWeight (text : String)
  | notKeyword (allowed : List String) (text : String)
  | invalidHex (text : String)
  | componentCount (text : String)
  | invalidChannel (text : String)
  | invalidAlpha (text : String)
  | notColor (text : String)
deriving DecidableEq, Repr

def StyleFault.message : StyleFault → String
  | missingColon => "expected `property: value`"
  | missingValue => "missing value"
  | notNumber text => "expected a number, got " ++ quoted text
  | notLength text => "expected a pixel length, got " ++ quoted text
  | boxCount count => s!"expected 1-4 values, got {count}"
  | notWeight text => "expected bold, normal or a numeric weight, got " ++ quoted text
  | notKeyword allowed text =>
    "expected one of " ++ String.intercalate "|" allowed ++ ", got " ++ quoted text
  | invalidHex text => "invalid hex color " ++ quoted text
  | componentCount text => "expected 3 or 4 components in " ++ quoted text
  | invalidChannel text => "invalid color channel " ++ quoted text
  | invalidAlpha text => "invalid alpha " ++ quoted text
  | notColor text => "unrecognized color " ++ quoted text

inductive TagFault where
  | scriptKind (wanted : String)
  | scriptNotFirst
  | undeclaredAlias (aliasName : String)
  | noComponent
  | unknownTag
deriving DecidableEq, Repr

def TagFault.message : TagFault → String
  | scriptKind wanted => s!"only type=\"{wanted}\" script blocks are supported"
  | scriptNotFirst => "the script block must come before any markup"
  | undeclaredAlias aliasName => s!"alias {aliasName} is not declared"
  | noComponent => "this element has no equivalent UI component"
  | unknownTag => "unknown lowercase tag (component names start with an uppercase letter)"

inductive FileFault where
  | missing
  | notDirectory
  | isDirectory
  | tooLong
  | nul
  | notText
deriving DecidableEq, Repr

def FileFault.message : FileFault → String
  | missing => "No such file or directory (os error 2)"
  | notDirectory => "Not a directory (os error 20)"
  | isDirectory => "Is a directory (os error 21)"
  | tooLong => "File name too long (os error 36)"
  | nul => "file name contained an unexpected NUL byte"
  | notText => "stream did not contain valid UTF-8"

inductive Base64Fault where
  | symbol (byte : UInt8) (offset : Nat)
  | length (count : Nat)
  | lastSymbol (byte : UInt8) (offset : Nat)
  | padding
deriving DecidableEq, Repr

def Base64Fault.message : Base64Fault → String
  | symbol byte offset => s!"Invalid symbol {byte}, offset {offset}."
  | length count => s!"Invalid input length: {count}"
  | lastSymbol byte offset => s!"Invalid last symbol {byte}, offset {offset}."
  | padding => "Invalid padding"

inductive FormatFault where
  | undetermined
  | unsupported (format : String)
  | unknownExtension (extension : String)
  | unreadable (fault : FileFault)
  | tooLarge
  | damaged
deriving DecidableEq, Repr

def FormatFault.message : FormatFault → String
  | undetermined => "The image format could not be determined"
  | unsupported format => s!"The image format {format} is not supported"
  | unknownExtension extension =>
    "The file extension `." ++ quoted extension ++ "` was not recognized as an image format"
  | unreadable fault => fault.message
  | tooLarge => "Memory limit exceeded"
  | damaged => "Format error decoding Png: Corrupt deflate stream."

inductive ImageFault where
  | missingSource
  | notBase64
  | base64 (fault : Base64Fault)
  | format (fault : FormatFault)
  | file (path : String) (fault : FormatFault)
  | dimension (name text : String)
  | tooLarge (width height limit : Nat)
  | pixelSize (text : String)
deriving DecidableEq, Repr

def ImageFault.message : ImageFault → String
  | missingSource => "missing src attribute"
  | notBase64 => "only base64 data URIs are supported"
  | base64 fault => "invalid base64 payload: " ++ fault.message
  | format fault => fault.message
  | file path fault => path ++ ": " ++ fault.message
  | dimension name text => s!"invalid {name} " ++ quoted text
  | tooLarge width height limit =>
    s!"{width}x{height} cells exceeds the {limit}x{limit} limit"
  | pixelSize text => "invalid pixel-size " ++ quoted text

end UiMarkup
