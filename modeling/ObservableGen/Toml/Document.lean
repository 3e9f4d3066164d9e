import ObservableGen.Toml.Scalar
set_option autoImplicit false

/-!
TOML documents: lines that set values, and headers that open tables. Arrays and inline tables nest
up to a fixed depth.
-/
namespace ObservableGen.Toml

-- Items with commas between them up to a closing bracket; a comma may stand behind the last. There are
-- fewer items than characters.
def separated {α : Type} (close : Char) (item : List Char → Read α) :
    Nat → List Char → Read (List α)
  | 0, _ => none
  | limit + 1, text =>
    match skipFiller false text with
    | none | some [] => none
    | some (c :: rest) =>
      if c = close then some ([], rest)
      else match item (c :: rest) with
        | none => none
        | some (first, rest) =>
          match skipFiller false rest with
          | none | some [] => none
          | some (c :: rest) =>
            if c = ',' then
              (separated close item limit rest).map fun read => (first :: read.1, read.2)
            else if c = close then some ([first], rest)
            else none

-- A key, an equals sign, and a value. What may stand around the sign is left to `skip`.
def pair (skip : List Char → Option (List Char)) (value : List Char → Read Value)
    (text : List Char) : Read (List String × Value) :=
  match key text with
  | none => none
  | some (keys, rest) =>
    match skip rest with
    | some ('=' :: rest) =>
      ((skip rest).bind value).map fun read => ((keys, read.1), read.2)
    | _ => none

def inlinePair (value : List Char → Read Value) : List Char → Read (List String × Value) :=
  pair (skipFiller false) value

def linePair (value : List Char → Read Value) : List Char → Read (List String × Value) :=
  pair (fun text => some (skipBlanks text)) value

def putAll (entries : Entries) : List (List String × Value) → Option Entries
  | [] => some entries
  | (keys, value) :: rest =>
    match entries.putPair value keys with
    | none => none
    | some entries => putAll entries rest

def value : Nat → List Char → Read Value
  | 0, text =>
    match quoted? text with
    | some read => read.map fun read => (.text (String.ofList read.1), read.2)
    | none => unquoted text
  | depth + 1, text =>
    match text with
    | '[' :: rest =>
      (separated ']' (value depth) (rest.length + 1) rest).map fun read => (.array read.1, read.2)
    | '\x7b' :: rest =>
      match separated '\x7d' (inlinePair (value depth)) (rest.length + 1) rest with
      | none => none
      | some (pairs, rest) => (putAll [] pairs).map fun entries => (.table .inline entries, rest)
    | _ =>
      match quoted? text with
      | some read => read.map fun read => (.text (String.ofList read.1), read.2)
      | none => unquoted text

def depthLimit : Nat := 80

structure State where
  root : Entries
  path : List String
deriving Repr, Inhabited

namespace State

def start : State :=
  ⟨[], []⟩

def open? (state : State) (path : List String) : Option State :=
  (state.root.openTable path).map fun root => ⟨root, path⟩

def add? (state : State) (path : List String) : Option State :=
  (state.root.addTable path).map fun root => ⟨root, path⟩

def put? (state : State) (pair : List String × Value) : Option State :=
  (state.root.changeAt (fun entries => entries.putPair pair.2 pair.1) state.path).map fun root =>
    ⟨root, state.path⟩

end State

def header (closing : List Char) (text : List Char) : Read (List String) :=
  match key text with
  | none => none
  | some (path, rest) => (closing.isPrefixOf? (skipBlanks rest)).map fun rest => (path, rest)

-- What one line that is not blank does, with the text behind it but for the line's end.
def statement (state : State) (text : List Char) : Read State :=
  match text with
  | '[' :: '[' :: rest =>
    match header [']', ']'] rest with
    | none => none
    | some (path, rest) => (state.add? path).map fun state => (state, rest)
  | '[' :: rest =>
    match header [']'] rest with
    | none => none
    | some (path, rest) => (state.open? path).map fun state => (state, rest)
  | _ =>
    match linePair (value depthLimit) text with
    | none => none
    | some (pair, rest) => (state.put? pair).map fun state => (state, rest)

def statements (state : State) : Nat → List Char → Option State
  | 0, _ => none
  | limit + 1, text =>
    match skipFiller false text with
    | none => none
    | some [] => some state
    | some rest =>
      match statement state rest with
      | none => none
      | some (state, rest) =>
        match endLine rest with
        | none => none
        | some rest => statements state limit rest

def skipMark : List Char → List Char
  | '\ufeff' :: rest => rest
  | text => text

def read? (document : String) : Option Entries :=
  let text := skipMark document.toList
  (statements .start (text.length + 1) text).map State.root

end ObservableGen.Toml
