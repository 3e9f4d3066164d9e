import ObservableGen.Text.Alphabetic
set_option autoImplicit false

/-!
C# identifiers: which texts are identifiers, the verbatim spelling with a leading `@`, and how
arbitrary text is mapped onto an identifier.
-/
namespace ObservableGen

namespace Identifier

def keywords : List String :=
  ["abstract", "as", "base", "bool", "break", "byte", "case", "catch", "char", "checked", "class",
    "const", "continue", "decimal", "default", "delegate", "do", "double", "else", "enum", "event",
    "explicit", "extern", "false", "finally", "fixed", "float", "for", "foreach", "goto", "if",
    "implicit", "in", "int", "interface", "internal", "is", "lock", "long", "namespace", "new",
    "null", "object", "operator", "out", "override", "params", "private", "protected", "public",
    "readonly", "ref", "return", "sbyte", "sealed", "short", "sizeof", "stackalloc", "static",
    "string", "struct", "switch", "this", "throw", "true", "try", "typeof", "uint", "ulong",
    "unchecked", "unsafe", "ushort", "using", "virtual", "void", "volatile", "while"]

def isKeyword (text : String) : Bool :=
  keywords.contains text

def isStart (c : Char) : Bool :=
  c == '_' || Text.isAlphabetic c

def isPart (c : Char) : Bool :=
  c == '_' || Text.isAlphanumeric c

def isWord : List Char → Bool
  | [] => false
  | first :: rest => isStart first && rest.all isPart

-- Whether the text is a C# identifier. A reserved word is one only in its verbatim spelling.
def isIdentifier (text : String) : Bool :=
  match text.toList with
  | '@' :: word => isWord word
  | word => isWord word && !isKeyword text

def plain (text : String) : String :=
  match text.toList with
  | '@' :: word => String.ofList word
  | _ => text

def maskPart (c : Char) : Char :=
  if isPart c then c else '_'

-- Maps any text onto an identifier fragment: characters that no identifier holds become `_`, and `_`
-- goes in front of nothing or of an ASCII digit.
def sanitize (text : String) : String :=
  match text.toList.map maskPart with
  | [] => "_"
  | first :: rest =>
    if first.isDigit then String.ofList ('_' :: first :: rest) else String.ofList (first :: rest)

theorem part_of_start (c : Char) (start : isStart c = true) : isPart c = true := by
  simp only [isStart, isPart, Bool.or_eq_true] at start ⊢
  exact start.imp_right (Text.alphanumeric_of_alphabetic c)

theorem mask_part_is_part (c : Char) : isPart (maskPart c) = true := by
  by_cases part : isPart c = true
  · rw [maskPart, if_pos part, part]
  · rw [maskPart, if_neg part]
    rfl

end Identifier

end ObservableGen
