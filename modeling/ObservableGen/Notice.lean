import ObservableGen.Failure
import ObservableGen.Marker
set_option autoImplicit false

/-!
What a run reports beside its result. A computation that reports carries its notices, in order,
along with its value; the value never depends on them.
-/
namespace ObservableGen

inductive Severity where
  | debug
  | info
  | warning
  | error
deriving DecidableEq, Repr, Inhabited

inductive Notice where
  | unexpectedArgument (name : String)
  | unknownAccess (name : String) (value : Int)
  | managerIgnored (member : String) (type : TypeUse)
  | emptyKeySkipped (resource : String)
  | repeatedKeySkipped (resource key property : String)
  | unknownMarker (marker : TypeName)
  | ineligible (member : String) (owner : TypeName) (marker : Marker)
  | unknownType (name : TypeName)
  | rejected (member : String) (owner : TypeName) (reason : Rejection)
  | notLocalized (owner : TypeName) (reason : LocalizationFailure)
  | emptyUnitDropped (owner : TypeName) (hint : String)
  | passFinished (types units : Nat) (fingerprint : UInt64)
  | settingsLoaded
  | generated (candidates units : Nat)
deriving DecidableEq, Repr, Inhabited

namespace Notice

def severity : Notice → Severity
  | unexpectedArgument _ | unknownAccess _ _ | emptyKeySkipped _ | repeatedKeySkipped _ _ _
  | unknownType _ | rejected _ _ _ => .warning
  | managerIgnored _ _ | unknownMarker _ | ineligible _ _ _ | emptyUnitDropped _ _
  | passFinished _ _ _ | settingsLoaded => .debug
  | notLocalized _ _ => .error
  | generated _ _ => .info

def message : Notice → String
  | unexpectedArgument _ => "unexpected Notify argument, ignored"
  | unknownAccess _ _ => "unknown AccessModifier value, treated as unset"
  | managerIgnored _ _ => "UseCommandManager ignored for a non-command type"
  | emptyKeySkipped _ => "empty localization key skipped"
  | repeatedKeySkipped _ _ _ => "localization key maps onto an existing property, skipped"
  | unknownMarker _ => "unrecognized marker, candidate skipped"
  | ineligible _ _ _ => "candidate not eligible"
  | unknownType _ => "enclosing type unknown to the host, skipped"
  | rejected _ _ _ => "property not generated"
  | notLocalized _ _ => "localization skipped"
  | emptyUnitDropped _ _ => "no members written, unit dropped"
  | passFinished _ _ _ => "generation pass finished"
  | settingsLoaded => "loaded generator configuration"
  | generated _ _ => "mvvmgen pass complete"

def fields : Notice → List (String × String)
  | unexpectedArgument name => [("argument", name)]
  | unknownAccess name value => [("argument", name), ("value", toString value)]
  | managerIgnored member type => [("member", member), ("ty", type.display)]
  | emptyKeySkipped resource => [("resource", resource)]
  | repeatedKeySkipped resource key property =>
    [("resource", resource), ("key", key), ("property", property)]
  | unknownMarker marker => [("marker", marker.path)]
  | ineligible member owner marker =>
    [("member", member), ("ty", owner.path), ("kind", marker.display)]
  | unknownType name => [("ty", name.path)]
  | rejected member owner reason =>
    [("member", member), ("ty", owner.path), ("error", reason.message)]
  | notLocalized owner reason => [("ty", owner.path), ("error", reason.message)]
  | emptyUnitDropped owner hint => [("ty", owner.path), ("hint", hint)]
  | passFinished types units fingerprint =>
    [("types", toString types), ("units", toString units),
      ("fingerprint", toString fingerprint.toNat)]
  | settingsLoaded => []
  | generated candidates units =>
    [("candidates", toString candidates), ("units", toString units)]

end Notice

structure Reported (α : Type) where
  value : α
  notices : List Notice
deriving Repr, Inhabited

namespace Reported

variable {α β : Type}

def silent (value : α) : Reported α :=
  ⟨value, []⟩

def bind (first : Reported α) (next : α → Reported β) : Reported β :=
  let second := next first.value
  ⟨second.value, first.notices ++ second.notices⟩

def after (notices : List Notice) (reported : Reported α) : Reported α :=
  ⟨reported.value, notices ++ reported.notices⟩

def map (change : α → β) (reported : Reported α) : Reported β :=
  ⟨change reported.value, reported.notices⟩

def fold (step : β → α → Reported β) (state : β) : List α → Reported β
  | [] => silent state
  | a :: rest => (step state a).bind fun state => fold step state rest

@[simp] theorem value_silent (value : α) : (silent value).value = value := rfl

@[simp] theorem value_after (notices : List Notice) (reported : Reported α) :
    (reported.after notices).value = reported.value := rfl

@[simp] theorem value_map (change : α → β) (reported : Reported α) :
    (reported.map change).value = change reported.value := rfl

@[simp] theorem value_bind (first : Reported α) (next : α → Reported β) :
    (first.bind next).value = (next first.value).value := rfl

theorem bind_notices (holds : Notice → Prop) (first : Reported α) (next : α → Reported β)
    (before : ∀ notice ∈ first.notices, holds notice)
    (behind : ∀ notice ∈ (next first.value).notices, holds notice) :
    ∀ notice ∈ (first.bind next).notices, holds notice :=
  List.forall_mem_append.mpr ⟨before, behind⟩

theorem fold_notices (holds : Notice → Prop) (step : β → α → Reported β) (list : List α)
    (each : ∀ a ∈ list, ∀ state, ∀ notice ∈ (step state a).notices, holds notice) (state : β) :
    ∀ notice ∈ (fold step state list).notices, holds notice := by
  induction list generalizing state with
  | nil => simp [fold, silent]
  | cons a rest ih =>
    obtain ⟨first, others⟩ := List.forall_mem_cons.mp each
    exact bind_notices holds _ _ (first state) (ih others _)

end Reported

end ObservableGen
