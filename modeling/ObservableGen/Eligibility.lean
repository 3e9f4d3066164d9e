import ObservableGen.Command
import ObservableGen.Compilation.Candidate
import ObservableGen.MemberAttributes
set_option autoImplicit false

/-!
Which candidates generate anything. A first look at the declaration as written is followed by
questions to the host; the answer never depends on other candidates.
-/
namespace ObservableGen

namespace Eligibility

def taskSpellings : List String :=
  ["Task", "System.Threading.Tasks.Task", "global::System.Threading.Tasks.Task"]

-- At most two parameters are written, the second of them a cancellation token.
def writtenParametersFit : List String → Bool
  | [] | [_] => true
  | [_, last] => Text.afterLast (fun c => c == '.' || c == ':') last == "CancellationToken"
  | _ => false

def writtenReturnFits : WrittenType → Bool
  | .keyword text => text == "void"
  | .identifier text | .qualified text => taskSpellings.contains text
  | .other _ => false

def shapeFits (marker : Marker) (shape : TargetShape) : Bool :=
  match marker, shape with
  | .notify, .field attributeLists container => 0 < attributeLists && container == .classBody
  | .notify, .method container returns parameters =>
    container == .classBody && writtenParametersFit parameters && writtenReturnFits returns
  | .notify, _ => false
  | .localize, shape | .notifyDataErrorInfo, shape => shape == .classDeclaration

def fieldFits (host : Host) (base owner : TypeName) (field : FieldMember) : Bool :=
  !field.isReadonly && host.inheritsFrom owner base

def methodFits (host : Host) (base owner : TypeName) (method : MethodMember) : Bool :=
  host.inheritsFrom owner base && (method.returns.isVoid || method.returns.isTask)
    && (Command.ofMethod? method).isSome

def localizeFits (host : Host) (attributes : List Attribute) : Bool :=
  match MemberAttributes.localizeResource attributes with
  | none => false
  | some resource => (host.text? resource).isSome

def validationInterface : TypeName := ⟨"System.ComponentModel.INotifyDataErrorInfo"⟩

def validationFits (host : Host) (owner : TypeName) : Bool :=
  host.implements owner validationInterface

def targetFits (host : Host) (base : TypeName) (marker : Marker) (candidate : Candidate) : Bool :=
  match marker, candidate.target with
  | .notify, .field member => fieldFits host base candidate.owner member
  | .notify, .method member => methodFits host base candidate.owner member
  | .localize, .type attributes => localizeFits host attributes
  | .notifyDataErrorInfo, .type _ => validationFits host candidate.owner
  | _, _ => false

def isEligible (host : Host) (base : TypeName) (marker : Marker) (candidate : Candidate) : Bool :=
  shapeFits marker candidate.shape && targetFits host base marker candidate

end Eligibility

end ObservableGen
