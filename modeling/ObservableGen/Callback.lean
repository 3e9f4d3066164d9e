import ObservableGen.Compilation.Host
set_option autoImplicit false

/-!
Change callbacks. A method serves as one if it returns nothing and takes nothing, or takes one
parameter that the value can be passed as.
-/
namespace ObservableGen

structure Callback where
  name : String
  takesValue : Bool
deriving DecidableEq, Repr, Inhabited

namespace Callback

-- Whether the method takes the value, if it can serve as a callback at all.
def shape? (host : Host) (valueType : TypeUse) (method : MethodMember) : Option Bool :=
  if method.returns.isVoid then
    match method.parameters with
    | [] => some false
    | [parameter] =>
      if host.isAssignable valueType parameter.type then some true else none
    | _ => none
  else none

def shapes (host : Host) (owner : Option DeclaredType) (name : String)
    (valueType : TypeUse) : List Bool :=
  match owner with
  | none => []
  | some owner =>
    ((owner.membersNamed name).filterMap Member.asMethod?).filterMap (shape? host valueType)

-- Several shapes pass the value if all do, or if one does and that is preferred.
def choose (shapes : List Bool) (prefer : Option Bool) : Bool :=
  match shapes with
  | [] => false
  | [takesValue] => takesValue
  | several => if prefer = some true then several.any id else several.all id

-- A name without a method that can serve is trusted as a callback without a value, declared elsewhere.
def resolve (host : Host) (owner : Option DeclaredType) (name : String)
    (valueType : TypeUse) (prefer : Option Bool) : Callback :=
  ⟨name, choose (shapes host owner name valueType) prefer⟩

end Callback

end ObservableGen
