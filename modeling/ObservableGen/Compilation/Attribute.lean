import ObservableGen.Compilation.TypeName
set_option autoImplicit false

/-!
Applied attributes with the values of their arguments.
-/
namespace ObservableGen

-- The value of an attribute argument. A value of an enumeration is its underlying integer.
inductive Constant where
  | null
  | bool (value : Bool)
  | int (value : Int)
  | text (value : String)
  | type (value : TypeUse)
  | array (values : List Constant)
deriving Repr, Inhabited

namespace Constant

def asText? : Constant → Option String
  | text value => some value
  | _ => none

def asBool? : Constant → Option Bool
  | bool value => some value
  | _ => none

def asInt? : Constant → Option Int
  | int value => some value
  | _ => none

def asArray? : Constant → Option (List Constant)
  | array values => some values
  | _ => none

end Constant

structure Attribute where
  className : TypeName
  positional : List Constant
  named : List (String × Constant)
deriving Repr, Inhabited

namespace Attribute

def simpleName (applied : Attribute) : String :=
  applied.className.lastPart

def hasClass (applied : Attribute) (className : TypeName) : Bool :=
  applied.className == className

-- The first attribute whose class has the simple name of `name`, whatever its namespace.
def findBySimpleName (attributes : List Attribute) (name : String) : Option Attribute :=
  attributes.find? fun applied => applied.simpleName == Text.afterLast (· == '.') name

def ofClass (attributes : List Attribute) (className : TypeName) : List Attribute :=
  attributes.filter (·.hasClass className)

end Attribute

end ObservableGen
