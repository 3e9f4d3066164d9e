set_option autoImplicit false

/-!
Accessibility of a property and of its two accessors. A property states its own accessibility and
at most one accessor states a narrower one, so a split of the two is a value of one of three forms.
-/
namespace ObservableGen

inductive Access where
  | unspecified
  | privateAccess
  | privateProtected
  | protectedAccess
  | internalAccess
  | protectedInternal
  | publicAccess
deriving DecidableEq, Repr, Inhabited

namespace Access

def all : List Access :=
  [unspecified, privateAccess, privateProtected, protectedAccess, internalAccess,
    protectedInternal, publicAccess]

-- How loose the access is; unspecified ranks lowest.
def rank : Access → Nat
  | unspecified => 0
  | privateAccess => 1
  | privateProtected => 2
  | protectedAccess => 3
  | internalAccess => 4
  | protectedInternal => 5
  | publicAccess => 6

def ofValue? (value : Int) : Option Access :=
  all.find? fun access => (access.rank : Int) == value

def isSpecified (access : Access) : Bool :=
  access != unspecified

def keyword? : Access → Option String
  | unspecified => none
  | privateAccess => some "private"
  | privateProtected => some "private protected"
  | protectedAccess => some "protected"
  | internalAccess => some "internal"
  | protectedInternal => some "protected internal"
  | publicAccess => some "public"

def display (access : Access) : String :=
  access.keyword?.getD ""

def lead (access : Access) : String :=
  match access.keyword? with
  | some keyword => keyword ++ " "
  | none => ""

theorem access_of_rank (access : Access) : ofValue? access.rank = some access := by
  cases access <;> decide

end Access

inductive AccessSplit where
  | uniform (property : Access)
  | getterApart (property getter : Access)
  | setterApart (property setter : Access)
deriving DecidableEq, Repr, Inhabited

namespace AccessSplit

def property : AccessSplit → Access
  | uniform property | getterApart property _ | setterApart property _ => property

def getter? : AccessSplit → Option Access
  | getterApart _ getter => some getter
  | _ => none

def setter? : AccessSplit → Option Access
  | setterApart _ setter => some setter
  | _ => none

-- Reduces what is asked for getter and setter. Internal and protected, which do not include each other,
-- make the property protected internal and leave the setter as asked. Else the property takes the
-- looser of the two, the getter where they are equal and public where the getter is unspecified, and
-- the other accessor stands apart if it is specified and differs.
def resolve (getter setter : Access) : AccessSplit :=
  if getter = .internalAccess ∧ setter = .protectedAccess
      ∨ getter = .protectedAccess ∧ setter = .internalAccess then
    setterApart .protectedInternal setter
  else if getter = .unspecified ∨ setter.rank ≤ getter.rank then
    let property := if getter = .unspecified then .publicAccess else getter
    if setter = .unspecified ∨ setter = property then uniform property
    else setterApart property setter
  else getterApart setter getter

end AccessSplit

end ObservableGen
