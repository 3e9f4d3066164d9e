import ObservableGen.Compilation.Hierarchy
set_option autoImplicit false

/-!
Hosts: all that generation asks about the code it is for. A compilation answers from its own
declarations; whatever else gives such answers serves as well.
-/
namespace ObservableGen

-- The answers of a compiler. Nothing ties one answer to another.
structure Host where
  nullable : NullableMode
  texts : List AdditionalText
  type? : TypeName → Option DeclaredType
  -- Whether the second type stands on the chain of base classes above the first.
  inheritsFrom : TypeName → TypeName → Bool
  -- Whether the second type is a base class or an interface above the first.
  implements : TypeName → TypeName → Bool
  -- Whether a value of the first type can be passed where the second is expected.
  isAssignable : TypeUse → TypeUse → Bool

namespace Host

def text? (host : Host) (path : String) : Option AdditionalText :=
  AdditionalText.find? host.texts path

end Host

def Compilation.host (compilation : Compilation) : Host where
  nullable := compilation.nullable
  texts := compilation.texts
  type? := compilation.type?
  inheritsFrom := compilation.inheritsFrom
  implements := compilation.implements
  isAssignable := compilation.isAssignable

theorem Compilation.host_type_declared (compilation : Compilation) (type : DeclaredType) :
    (compilation.declare type).host.type? type.name = some type :=
  compilation.type_declared type

end ObservableGen
