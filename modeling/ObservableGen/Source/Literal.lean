set_option autoImplicit false

/-!
Text inside generated source: as a quoted string literal, and in a documentation comment. Both
escape character by character and leave no line terminator behind.
-/
namespace ObservableGen.Source

def hexDigits (code : Nat) : List Char :=
  [Nat.digitChar (code / 0x1000 % 16), Nat.digitChar (code / 0x100 % 16),
    Nat.digitChar (code / 0x10 % 16), Nat.digitChar (code % 16)]

def numberedEscape (c : Char) : List Char :=
  '\\' :: 'u' :: hexDigits c.toNat

-- The line terminators beyond carriage return and line feed.
def isWideTerminator (c : Char) : Bool :=
  c == '\u0085' || c == '\u2028' || c == '\u2029'

namespace Literal

def escape (c : Char) : List Char :=
  match c with
  | '"' => ['\\', '"']
  | '\\' => ['\\', '\\']
  | '\x08' => ['\\', 'b']
  | '\x0c' => ['\\', 'f']
  | '\n' => ['\\', 'n']
  | '\r' => ['\\', 'r']
  | '\t' => ['\\', 't']
  | c => if c.toNat < 0x20 || isWideTerminator c then numberedEscape c else [c]

def quote (value : String) : String :=
  "\"" ++ String.ofList (value.toList.flatMap escape) ++ "\""

end Literal

namespace Doc

-- A character inside a documentation comment: markup is escaped and line terminators are spelled out.
def escape (c : Char) : List Char :=
  match c with
  | '&' => ['&', 'a', 'm', 'p', ';']
  | '<' => ['&', 'l', 't', ';']
  | '>' => ['&', 'g', 't', ';']
  | '\r' => ['\\', 'r']
  | '\n' => ['\\', 'n']
  | c => if isWideTerminator c then numberedEscape c else [c]

def text (value : String) : String :=
  String.ofList (value.toList.flatMap escape)

theorem text_append (left right : String) : text (left ++ right) = text left ++ text right := by
  simp [text, String.toList_append, List.flatMap_append, String.ofList_append]

end Doc

end ObservableGen.Source
