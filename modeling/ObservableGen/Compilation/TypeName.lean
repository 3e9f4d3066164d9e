import ObservableGen.Text.Segment
set_option autoImplicit false

/-!
Types as a compilation names them: the identity of a declared type, a type as written where it is
used, and the nullable annotations in force.
-/
namespace ObservableGen

-- The identity of a type, such as `App.Outer.Inner`. It carries neither the global alias nor a nullable
-- annotation.
structure TypeName where
  path : String
deriving DecidableEq, Repr, Inhabited

namespace TypeName

def globalAlias : String := "global::"

-- One leading global alias is dropped.
def ofText (text : String) : TypeName :=
  ⟨(Text.afterLead? globalAlias text).getD text⟩

def qualified (name : TypeName) : String :=
  globalAlias ++ name.path

def lastPart (name : TypeName) : String :=
  Text.afterLast (· == '.') name.path

def order (left right : TypeName) : Ordering :=
  if left = right then .eq else if left.path < right.path then .lt else .gt

theorem of_text_qualified (name : TypeName) : ofText name.qualified = name := by
  have rest : globalAlias.toList.isPrefixOf? (globalAlias.toList ++ name.path.toList)
      = some name.path.toList := by
    have strip (lead text : List Char) : lead.isPrefixOf? (lead ++ text) = some text := by
      induction lead with
      | nil => rfl
      | cons c lead ih =>
        change (if c == c then lead.isPrefixOf? (lead ++ text) else none) = some text
        rw [if_pos (beq_self_eq_true c), ih]
    exact strip _ _
  simp [ofText, qualified, Text.afterLead?, String.toList_append, rest, String.ofList_toList]

end TypeName

-- A type as a signature writes it: a keyword or a fully qualified name, kept as text, and the nullable
-- annotation at this use.
structure TypeUse where
  text : String
  nullable : Bool
deriving DecidableEq, Repr, Inhabited

namespace TypeUse

def task : TypeName := ⟨"System.Threading.Tasks.Task"⟩

def cancellationToken : TypeName := ⟨"System.Threading.CancellationToken"⟩

def display (use : TypeUse) : String :=
  if use.nullable then use.text ++ "?" else use.text

def name (use : TypeUse) : TypeName :=
  .ofText use.text

def isVoid (use : TypeUse) : Bool :=
  use.text == "void"

def isTask (use : TypeUse) : Bool :=
  use.name == task

def isCancellationToken (use : TypeUse) : Bool :=
  use.name == cancellationToken

-- The last part of the text before any type arguments; dots and colons separate parts.
def simpleName (use : TypeUse) : String :=
  Text.afterLast (fun c => c == '.' || c == ':') (Text.beforeFirst (· == '<') use.text)

end TypeUse

inductive NullableMode where
  | disabled
  | annotations
  | enabled
deriving DecidableEq, Repr, Inhabited

namespace NullableMode

def annotates : NullableMode → Bool
  | disabled => false
  | annotations | enabled => true

def mark (mode : NullableMode) : String :=
  if mode.annotates then "?" else ""

def directive : NullableMode → Option String
  | disabled => none
  | annotations => some "#nullable enable annotations"
  | enabled => some "#nullable enable"

end NullableMode

end ObservableGen
