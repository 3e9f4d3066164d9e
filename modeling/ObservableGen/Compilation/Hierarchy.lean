import ObservableGen.Compilation.Table
set_option autoImplicit false

/-!
The type hierarchy of a compilation. A declaration is taken out of the remaining ones when it is
followed, so that each is followed once and cycles come to an end.
-/
namespace ObservableGen

namespace Hierarchy

def others (types : List DeclaredType) (name : TypeName) : List DeclaredType :=
  types.filter fun declared => declared.name != name

theorem others_shorter (types : List DeclaredType) (name : TypeName) (declared : DeclaredType)
    (found : types.find? (fun declared => declared.name == name) = some declared) :
    (others types name).length < types.length := by
  have inside := List.mem_of_find?_eq_some found
  have same : declared.name = name := by simpa using List.find?_some found
  exact List.length_filter_lt_length_iff_exists.2 ⟨declared, inside, by simp [same]⟩

def bases (types : List DeclaredType) (name : TypeName) : List TypeName :=
  match _found : types.find? fun declared => declared.name == name with
  | none => []
  | some declared =>
    match declared.base with
    | none => []
    | some base => base :: bases (others types name) base
termination_by types.length
decreasing_by exact others_shorter types name declared _found

-- Every base class and interface met above the pending types.
def ancestors (types : List DeclaredType) : List TypeName → List TypeName
  | [] => []
  | name :: pending =>
    match _found : types.find? fun declared => declared.name == name with
    | none => ancestors types pending
    | some declared =>
      declared.supertypes ++ ancestors (others types name) (declared.supertypes ++ pending)
termination_by pending => (types.length, pending.length)
decreasing_by
  · exact Prod.Lex.right _ (Nat.lt_succ_self _)
  · exact Prod.Lex.left _ _ (others_shorter types name declared _found)

end Hierarchy

namespace Compilation

def inheritsFrom (compilation : Compilation) (name base : TypeName) : Bool :=
  (Hierarchy.bases compilation.types name).contains base

def supertypes (compilation : Compilation) (name : TypeName) : List TypeName :=
  (Hierarchy.ancestors compilation.types [name]).filter (· != name)

def implements (compilation : Compilation) (name interface : TypeName) : Bool :=
  (compilation.supertypes name).contains interface

def isObject (name : TypeName) : Bool :=
  name == ⟨"object"⟩ || name == ⟨"System.Object"⟩

def isAssignable (compilation : Compilation) (value expected : TypeUse) : Bool :=
  isObject expected.name || value.name == expected.name
    || compilation.implements value.name expected.name

end Compilation

end ObservableGen
