import ObservableGen.Eligibility
import ObservableGen.Output
import ObservableGen.Property
set_option autoImplicit false

/-!
A pass over candidates for generation. They are admitted one by one, gathered under their types
and, within a type, under their markers; then each type is generated in turn.
-/
namespace ObservableGen

open Source

def version : String := "0.4.0"

structure Options where
  toolName : String
  toolVersion : String
  observableBase : TypeName
  cached : Bool
deriving DecidableEq, Repr, Inhabited

namespace Options

def default : Options :=
  ⟨"Minimal.Mvvm.SourceGenerator", version, ⟨"Minimal.Mvvm.BindableBase"⟩, true⟩

def header (options : Options) (host : Host) : UnitHeader :=
  ⟨options.toolName, options.toolVersion, host.nullable⟩

end Options

-- The answers of a cancellation flag, by the number of the question.
abbrev Cancellation := Nat → Bool

inductive Cancelled where
  | cancelled
deriving DecidableEq, Repr, Inhabited

def Cancelled.message : Cancelled → String
  | cancelled => "generation pass cancelled by the host"

structure Asked (α : Type) where
  polls : Nat
  outcome : Except Cancelled α

namespace Pass

abbrev Admitted := Marker × Candidate

def acceptance (host : Host) (base : TypeName) (candidate : Candidate) : Except Notice Marker :=
  match Marker.ofClass? candidate.marker with
  | none => .error (.unknownMarker candidate.marker)
  | some marker =>
    if Eligibility.isEligible host base marker candidate then .ok marker
    else .error (.ineligible candidate.memberName candidate.owner marker)

-- The admitted candidates with their types. The flag is asked before each candidate; the first yes ends
-- the pass.
def discover (host : Host) (base : TypeName) (flag : Cancellation) (polls : Nat) :
    List Candidate → Reported (Asked (List (TypeName × Admitted)))
  | [] => .silent ⟨polls, .ok []⟩
  | candidate :: rest =>
    if flag polls then .silent ⟨polls + 1, .error .cancelled⟩
    else
      let further := discover host base flag (polls + 1) rest
      match acceptance host base candidate with
      | .error notice => further.after [notice]
      | .ok marker =>
        further.map fun asked =>
          ⟨asked.polls, asked.outcome.map ((candidate.owner, marker, candidate) :: ·)⟩

def addCandidate (host : Host) (owner : TypeName) (state : TypeUnit × Shared)
    (candidate : Candidate) : Reported (TypeUnit × Shared) :=
  match Property.ofTarget? host (some state.1.type) candidate.target with
  | none => .silent state
  | some decided =>
    decided.bind fun
      | .ok property => .silent (state.1.addProperty state.2 property)
      | .error reason => ⟨state, [.rejected candidate.memberName owner reason]⟩

-- Adds what the candidates of one marker ask for. Of several that ask to localize a class, or to
-- validate it, the first speaks for all.
def addMarked (host : Host) (owner : TypeName) (state : TypeUnit × Shared) :
    Marker × List Candidate → Reported (TypeUnit × Shared)
  | (.notify, candidates) => .fold (addCandidate host owner) state candidates
  | (.localize, candidates) =>
    match candidates.head? with
    | none => .silent state
    | some candidate =>
      match Localization.load host candidate.target.attributes with
      | .ok localization =>
        (state.1.addLocalization localization).map fun unit => (unit, state.2)
      | .error reason => ⟨state, [.notLocalized owner reason]⟩
  | (.notifyDataErrorInfo, _) => .silent (state.1.addValidation, state.2)

def generateType (options : Options) (host : Host) (shared : Shared)
    (owner : TypeName) (members : List Admitted) : Reported (Option TypeUnit × Shared) :=
  match host.type? owner with
  | none => ⟨(none, shared), [.unknownType owner]⟩
  | some type =>
    let start := TypeUnit.start (options.header host) type
    let marked := FirstSeen.gather members
    (Reported.fold (addMarked host owner) (start, shared) marked).bind fun
      | (unit, shared) =>
        if unit.blocks.isEmpty then ⟨(none, shared), [.emptyUnitDropped owner unit.hint]⟩
        else .silent (some unit, shared)

def addType (options : Options) (host : Host) (state : List TypeUnit × Shared)
    (group : TypeName × List Admitted) : Reported (List TypeUnit × Shared) :=
  (generateType options host state.2 group.1 group.2).map fun generated =>
    (state.1 ++ generated.1.toList, generated.2)

def generate (options : Options) (host : Host)
    (admitted : List (TypeName × Admitted)) : Reported Output :=
  let groups := FirstSeen.gather admitted
  (Reported.fold (addType options host) ([], Shared.empty options.cached) groups).bind fun
    | (types, shared) =>
      let output := Output.assemble (options.header host) types shared
      ⟨output, [.passFinished groups.length output.units.length output.fingerprint]⟩

def run (options : Options) (host : Host) (candidates : List Candidate)
    (flag : Cancellation) : Reported (Asked Output) :=
  (discover host options.observableBase flag 0 candidates).bind fun asked =>
    match asked.outcome with
    | .error reason => .silent ⟨asked.polls, .error reason⟩
    | .ok admitted =>
      (generate options host admitted).map fun output => ⟨asked.polls, .ok output⟩

end Pass

end ObservableGen
