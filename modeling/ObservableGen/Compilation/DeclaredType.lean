import ObservableGen.Compilation.Attribute
set_option autoImplicit false

/-!
Declared types and their members.
-/
namespace ObservableGen

structure FieldMember where
  name : String
  type : TypeUse
  isReadonly : Bool
  attributes : List Attribute
  doc : Option (List String)
deriving Repr, Inhabited

structure Parameter where
  name : String
  type : TypeUse
deriving DecidableEq, Repr, Inhabited

structure MethodMember where
  name : String
  returns : TypeUse
  parameters : List Parameter
  attributes : List Attribute
  doc : Option (List String)
deriving Repr, Inhabited

inductive Member where
  | field (member : FieldMember)
  | method (member : MethodMember)
  | property (name : String) (type : TypeUse)
deriving Repr, Inhabited

namespace Member

def name : Member → String
  | field member => member.name
  | method member => member.name
  | property name _ => name

def asField? : Member → Option FieldMember
  | field member => some member
  | _ => none

def asMethod? : Member → Option MethodMember
  | method member => some member
  | _ => none

end Member

structure TypeHead where
  keyword : String
  name : String
  typeParameters : List String
deriving DecidableEq, Repr, Inhabited

namespace TypeHead

def arity (head : TypeHead) : Nat :=
  head.typeParameters.length

def text (head : TypeHead) : String :=
  match head.typeParameters with
  | [] => head.keyword ++ " " ++ head.name
  | parameters => head.keyword ++ " " ++ head.name ++ "<" ++ ", ".intercalate parameters ++ ">"

end TypeHead

structure DeclaredType where
  space : Option String
  -- The nesting declarations from the outermost to the type's own.
  heads : List TypeHead
  base : Option TypeName
  interfaces : List TypeName
  members : List Member
  attributes : List Attribute
deriving Repr, Inhabited

namespace DeclaredType

def space? (type : DeclaredType) : Option String :=
  type.space.filter (· != "")

def head? (type : DeclaredType) : Option TypeHead :=
  type.heads.getLast?

def simpleName (type : DeclaredType) : String :=
  (type.head?.map TypeHead.name).getD ""

-- The namespace and the names of all nesting declarations, with dots between them.
def name (type : DeclaredType) : TypeName :=
  let path := ".".intercalate (type.heads.map TypeHead.name)
  match type.space? with
  | some space => .ofText (space ++ "." ++ path)
  | none => .ofText path

def nestedIn (type outer : DeclaredType) : DeclaredType :=
  { type with heads := outer.heads ++ type.heads, space := outer.space }

def supertypes (type : DeclaredType) : List TypeName :=
  type.base.toList ++ type.interfaces

def membersNamed (type : DeclaredType) (name : String) : List Member :=
  type.members.filter (·.name == name)

def fieldNamed? (type : DeclaredType) (name : String) : Option FieldMember :=
  (type.membersNamed name).findSome? Member.asField?

def methodNamed? (type : DeclaredType) (name : String) : Option MethodMember :=
  (type.membersNamed name).findSome? Member.asMethod?

-- The file name of the unit generated for the type: its name, then the number of its own type
-- parameters if it has any.
def hint (type : DeclaredType) : String :=
  let arity := (type.head?.map TypeHead.arity).getD 0
  if arity = 0 then type.name.path ++ ".g.cs"
  else type.name.path ++ "`" ++ toString arity ++ ".g.cs"

end DeclaredType

end ObservableGen
