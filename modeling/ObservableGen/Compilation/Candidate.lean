import ObservableGen.Compilation.DeclaredType
import ObservableGen.Text.Blank
set_option autoImplicit false

/-!
Candidates for generation: attribute targets, with the shape of their declarations as written.
-/
namespace ObservableGen

inductive Container where
  | classBody
  | structBody
  | recordBody
  | interfaceBody
  | other
deriving DecidableEq, Repr, Inhabited

-- A return type as written, before any name is resolved.
inductive WrittenType where
  | keyword (text : String)
  | identifier (text : String)
  -- A name of several parts, or one with an alias.
  | qualified (text : String)
  -- A generic, array, tuple or nullable type.
  | other (text : String)
deriving DecidableEq, Repr, Inhabited

namespace WrittenType

def keywords : List String :=
  ["void", "bool", "byte", "sbyte", "char", "decimal", "double", "float", "int", "uint", "long",
    "ulong", "object", "short", "ushort", "string"]

def ofText (written : String) : WrittenType :=
  let text := Text.trimmed written
  if text.toList.any fun c => c == '<' || c == '[' || c == '(' || c == '?' then .other text
  else if text.toList.any fun c => c == '.' || c == ':' then .qualified text
  else if keywords.contains text then .keyword text
  else .identifier text

def text : WrittenType → String
  | keyword text | identifier text | qualified text | other text => text

end WrittenType

-- The declaration of an attribute target, as far as it shows without resolving names.
inductive TargetShape where
  | field (attributeLists : Nat) (container : Container)
  -- Parameters are given by the names of their types as written.
  | method (container : Container) (returns : WrittenType) (parameters : List String)
  | classDeclaration
  | other
deriving DecidableEq, Repr, Inhabited

inductive Target where
  | field (member : FieldMember)
  | method (member : MethodMember)
  | type (attributes : List Attribute)
deriving Repr, Inhabited

namespace Target

def shape : Target → TargetShape
  | field _ => .field 1 .classBody
  | method member =>
    let returns := if member.returns.isTask then "Task" else member.returns.text
    .method .classBody (.ofText returns) (member.parameters.map (·.type.simpleName))
  | type _ => .classDeclaration

def attributes : Target → List Attribute
  | field member => member.attributes
  | method member => member.attributes
  | type attributes => attributes

end Target

structure Candidate where
  marker : TypeName
  shape : TargetShape
  owner : TypeName
  target : Target
deriving Repr, Inhabited

namespace Candidate

def ofTarget (marker owner : TypeName) (target : Target) : Candidate :=
  ⟨marker, target.shape, owner, target⟩

def memberName (candidate : Candidate) : String :=
  match candidate.target with
  | .field member => member.name
  | .method member => member.name
  | .type _ => candidate.owner.lastPart

end Candidate

end ObservableGen
