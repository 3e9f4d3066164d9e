import ObservableGen.Compilation.Hierarchy
set_option autoImplicit false

/-!
Walks up the hierarchy that take nothing out of the declarations, but remember the names they have met.
-/
namespace ObservableGen.Hierarchy

def above (next : DeclaredType → List TypeName) (types : List DeclaredType) (name : TypeName) :
    List TypeName :=
  ((types.find? fun declared => declared.name == name).map next).getD []

def base? (types : List DeclaredType) (name : TypeName) : Option TypeName :=
  (types.find? fun declared => declared.name == name).bind DeclaredType.base

-- Going up from base class to base class in search of a name, until the chain ends or comes back to
-- a name that has been passed.
inductive Climb (types : List DeclaredType) (sought : TypeName) : List TypeName → Option TypeName → Bool → Prop
  | top (passed : List TypeName) : Climb types sought passed none false
  | found (passed : List TypeName) : Climb types sought passed (some sought) true
  | again (passed : List TypeName) (name : TypeName) (other : name ≠ sought) (known : name ∈ passed) :
      Climb types sought passed (some name) false
  | further (passed : List TypeName) (name : TypeName) (answer : Bool) (other : name ≠ sought)
      (new : name ∉ passed) (rest : Climb types sought (name :: passed) (base? types name) answer) :
      Climb types sought passed (some name) answer

-- Names to go on from, and all that have been met besides the start.
structure Sweep where
  seen : List TypeName
  pending : List TypeName

namespace Sweep

def meet (start : TypeName) (sweep : Sweep) (name : TypeName) : Sweep :=
  if name = start ∨ name ∈ sweep.seen then sweep else ⟨name :: sweep.seen, name :: sweep.pending⟩

def meetAll (start : TypeName) (sweep : Sweep) (names : List TypeName) : Sweep :=
  names.foldl (meet start) sweep

-- The name met last is gone on from first.
inductive Ends (types : List DeclaredType) (start : TypeName) : Sweep → List TypeName → Prop
  | done (seen : List TypeName) : Ends types start ⟨seen, []⟩ seen
  | next (seen pending found : List TypeName) (name : TypeName)
      (rest : Ends types start (meetAll start ⟨seen, pending⟩ (above DeclaredType.supertypes types name)) found) :
      Ends types start ⟨seen, name :: pending⟩ found

end Sweep

end ObservableGen.Hierarchy
