import ObservableGen.Json.Text
set_option autoImplicit false

/-!
The words of a TOML document: blanks and comments, keys, and quoted strings. Each reader gives what
it has read and the text behind it, or nothing where the text is malformed.
-/
namespace ObservableGen.Toml

abbrev Read (α : Type) := Option (α × List Char)

def isBlank (c : Char) : Bool :=
  c == ' ' || c == '\t'

def skipBlanks (text : List Char) : List Char :=
  text.dropWhile isBlank

-- A character that may stand as it is in a comment or a string: a tab, or no control character.
def isPlain (c : Char) : Bool :=
  c == '\t' || (0x20 ≤ c.toNat && c.toNat != 0x7F)

def newline? : List Char → Option (List Char)
  | '\n' :: rest => some rest
  | '\r' :: '\n' :: rest => some rest
  | _ => none

def skipFiller (inComment : Bool) : List Char → Option (List Char)
  | [] => some []
  | '\n' :: rest => skipFiller false rest
  | '\r' :: '\n' :: rest => skipFiller false rest
  | c :: rest =>
    if inComment then if isPlain c then skipFiller true rest else none
    else if isBlank c then skipFiller false rest
    else if c = '#' then skipFiller true rest
    else some (c :: rest)

def endLine (text : List Char) : Option (List Char) :=
  let rest := match skipBlanks text with
    | '#' :: comment => comment.dropWhile isPlain
    | rest => rest
  if rest = [] then some [] else newline? rest

def hexNumber? (digits : List Char) : Option Nat :=
  digits.foldl (fun number digit =>
    match number, Json.hexDigit? digit with
    | some number, some digit => some (number * 16 + digit)
    | _, _ => none) (some 0)

def hexChar? (digits : List Char) : Option Char :=
  match hexNumber? digits with
  | none => none
  | some code => if code.isValidChar then some (Char.ofNat code) else none

def letterEscape? : Char → Option Char
  | 'b' => some '\x08'
  | 't' => some '\t'
  | 'n' => some '\n'
  | 'f' => some '\x0c'
  | 'r' => some '\r'
  | 'e' => some '\x1b'
  | '"' => some '"'
  | '\\' => some '\\'
  | _ => none

def consChar (c : Option Char) (read : Read (List Char)) : Read (List Char) :=
  match c, read with
  | some c, some (text, rest) => some (c :: text, rest)
  | _, _ => none

-- A string on one line, its opening quote already read.
def basicBody : List Char → Read (List Char)
  | [] => none
  | '"' :: rest => some ([], rest)
  | '\\' :: 'x' :: a :: b :: rest => consChar (hexChar? [a, b]) (basicBody rest)
  | '\\' :: 'u' :: a :: b :: c :: d :: rest => consChar (hexChar? [a, b, c, d]) (basicBody rest)
  | '\\' :: 'U' :: a :: b :: c :: d :: e :: f :: g :: h :: rest =>
    consChar (hexChar? [a, b, c, d, e, f, g, h]) (basicBody rest)
  | '\\' :: c :: rest => consChar (letterEscape? c) (basicBody rest)
  | c :: rest => consChar (if isPlain c then some c else none) (basicBody rest)

def literalBody : List Char → Read (List Char)
  | [] => none
  | '\x27' :: rest => some ([], rest)
  | c :: rest => consChar (if isPlain c then some c else none) (literalBody rest)

-- A string over several lines, its opening quotes already read. Up to two quotes may stand before the
-- closing three. While trimming, line ends and blanks are left out; a backslash at the end of a line
-- starts that.
def longBasicBody (trimming : Bool) : List Char → Read (List Char)
  | [] => none
  | '"' :: '"' :: '"' :: '"' :: '"' :: rest => some (['"', '"'], rest)
  | '"' :: '"' :: '"' :: '"' :: rest => some (['"'], rest)
  | '"' :: '"' :: '"' :: rest => some ([], rest)
  | '\\' :: 'x' :: a :: b :: rest => consChar (hexChar? [a, b]) (longBasicBody false rest)
  | '\\' :: 'u' :: a :: b :: c :: d :: rest =>
    consChar (hexChar? [a, b, c, d]) (longBasicBody false rest)
  | '\\' :: 'U' :: a :: b :: c :: d :: e :: f :: g :: h :: rest =>
    consChar (hexChar? [a, b, c, d, e, f, g, h]) (longBasicBody false rest)
  | '\\' :: c :: rest =>
    if (newline? (skipBlanks (c :: rest))).isSome then longBasicBody true (c :: rest)
    else consChar (letterEscape? c) (longBasicBody false rest)
  | '\r' :: '\n' :: rest =>
    if trimming then longBasicBody true rest
    else consChar (some '\r') (consChar (some '\n') (longBasicBody false rest))
  | c :: rest =>
    if trimming && (isBlank c || c == '\n') then longBasicBody true rest
    else consChar (if isPlain c || c == '\n' then some c else none) (longBasicBody false rest)

def longLiteralBody : List Char → Read (List Char)
  | [] => none
  | '\x27' :: '\x27' :: '\x27' :: '\x27' :: '\x27' :: rest => some (['\x27', '\x27'], rest)
  | '\x27' :: '\x27' :: '\x27' :: '\x27' :: rest => some (['\x27'], rest)
  | '\x27' :: '\x27' :: '\x27' :: rest => some ([], rest)
  | '\r' :: '\n' :: rest => consChar (some '\r') (consChar (some '\n') (longLiteralBody rest))
  | c :: rest => consChar (if isPlain c || c == '\n' then some c else none) (longLiteralBody rest)

-- A line end right behind the opening quotes is left out.
def skipFirstNewline (text : List Char) : List Char :=
  (newline? text).getD text

def quoted? : List Char → Option (Read (List Char))
  | '"' :: '"' :: '"' :: rest => some (longBasicBody false (skipFirstNewline rest))
  | '\x27' :: '\x27' :: '\x27' :: rest => some (longLiteralBody (skipFirstNewline rest))
  | '"' :: rest => some (basicBody rest)
  | '\x27' :: rest => some (literalBody rest)
  | _ => none

def isBare (c : Char) : Bool :=
  c.isAlphanum || c == '_' || c == '-'

def keyPart (text : List Char) : Read String :=
  let read := match text with
    | '"' :: rest => basicBody rest
    | '\x27' :: rest => literalBody rest
    | _ =>
      match text.takeWhile isBare with
      | [] => none
      | part => some (part, text.dropWhile isBare)
  read.map fun read => (String.ofList read.1, read.2)

-- A key of parts with dots between them. No key has as many parts as characters are left.
def keyParts : Nat → List Char → Read (List String)
  | 0, _ => none
  | limit + 1, text =>
    match keyPart (skipBlanks text) with
    | none => none
    | some (part, rest) =>
      match skipBlanks rest with
      | '.' :: rest => (keyParts limit rest).map fun read => (part :: read.1, read.2)
      | rest => some ([part], rest)

def keyLimit : Nat := 80

def key (text : List Char) : Read (List String) :=
  (keyParts (text.length + 1) text).filter fun read => read.1.length ≤ keyLimit

end ObservableGen.Toml
