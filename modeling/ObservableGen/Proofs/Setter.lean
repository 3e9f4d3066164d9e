import ObservableGen.Source.PropertySource
set_option autoImplicit false

/-!
A generated setter as a small program: calls with their arguments, a local, a test. Main statement: the program,
spelled out, is what stands in the source.
-/
namespace ObservableGen.Source

inductive Callee where
  | setProperty
  | removeHandler
  | addHandler
  | raiseOne
  | raiseSeveral
deriving DecidableEq, Repr

def Callee.text : Callee → String
  | setProperty => "SetProperty"
  | removeHandler => "global::Minimal.Mvvm.RequerySuggestedEventManager.RemoveHandler"
  | addHandler => "global::Minimal.Mvvm.RequerySuggestedEventManager.AddHandler"
  | raiseOne => "RaisePropertyChanged"
  | raiseSeveral => "RaisePropertiesChanged"

-- An argument as it is written. The delegate is the one in the field, made from the method if there is none yet.
inductive Operand where
  | reference (name : String)
  | named (name : String)
  | notified (argument : NotificationArgument)
  | delegate (field method : String)
deriving DecidableEq, Repr

def Operand.text : Operand → String
  | reference name => "ref " ++ name
  | named name => name
  | notified argument => argument.text
  | delegate field method => field ++ " ??= " ++ method

structure Invocation where
  callee : Callee
  operands : List Operand
deriving DecidableEq, Repr

namespace Invocation

def text (call : Invocation) : String :=
  call.callee.text ++ "(" ++ ", ".intercalate (call.operands.map Operand.text) ++ ")"

def line (call : Invocation) : Line := .flat (call.text ++ ";")

end Invocation

-- A local keeps what is named; a body is run if the call answers that something changed.
inductive Statement where
  | keep (name source : String)
  | test (condition : Invocation) (body : List Invocation)

def Statement.lines : Statement → List Line
  | keep name source => [.flat ("var " ++ name ++ " = " ++ source ++ ";")]
  | test condition body => .flat ("if (" ++ condition.text ++ ")") :: Line.braced (body.map Invocation.line)

inductive Setter where
  | expression (call : Invocation)
  | block (statements : List Statement)

namespace Setter

def lines (lead : String) : Setter → List Line
  | expression call => [.flat (lead ++ "set => " ++ call.text ++ ";")]
  | block statements => .flat (lead ++ "set") :: Line.braced (statements.flatMap Statement.lines)

def isExpression : Setter → Bool
  | expression _ => true
  | block _ => false

end Setter

namespace PropertySource

def setInvocation (source : PropertySource) : Invocation :=
  ⟨.setProperty, [.reference source.property.backing, .named "value"]
    ++ (source.ownToken.map fun ident => .notified (.token ident)).toList
    ++ (source.property.callback.map fun callback =>
      .delegate (source.property.backing ++ "ChangedCallback") callback.name).toList⟩

def handlerInvocations (property : Property) : List Invocation :=
  if property.usesManager then [⟨.removeHandler, [.named "oldValue"]⟩, ⟨.addHandler, [.named "value"]⟩] else []

def raiseInvocation? (source : PropertySource) : Option Invocation :=
  match source.raised with
  | [] => none
  | [argument] => some ⟨.raiseOne, [.notified argument]⟩
  | arguments => some ⟨.raiseSeveral, arguments.map .notified⟩

def setter (source : PropertySource) : Setter :=
  let property := source.property
  if property.usesManager || !property.alsoNotify.isEmpty then
    let kept := if property.usesManager then [.keep "oldValue" property.backing] else []
    .block (kept ++ [.test source.setInvocation (handlerInvocations property ++ source.raiseInvocation?.toList)])
  else .expression source.setInvocation

theorem set_invocation_text (source : PropertySource) : source.setInvocation.text = source.setCall := by
  cases token : source.ownToken <;> cases given : source.property.callback <;>
    simp [setInvocation, Invocation.text, Callee.text, Operand.text, NotificationArgument.text, setCall, setArguments,
      callbackArgument?, callbackField, token, given]

theorem raise_invocation_text (source : PropertySource) :
    source.raiseInvocation?.map Invocation.text = source.raiseCall? := by
  rw [raiseInvocation?, raiseCall?]
  cases source.raised with
  | nil => rfl
  | cons first rest =>
      cases rest with
      | nil => simp [Invocation.text, Callee.text, Operand.text]
      | cons second rest =>
          simp [Invocation.text, Callee.text, Operand.text, Function.comp_def]

theorem handler_invocations_lines (property : Property) :
    (handlerInvocations property).map Invocation.line = managerLines property := by
  by_cases manager : property.usesManager = true
  · rw [handlerInvocations, managerLines, if_pos manager, if_pos manager]
    rfl
  · rw [handlerInvocations, managerLines, if_neg manager, if_neg manager]
    rfl

theorem setter_written (source : PropertySource) :
    source.setter.lines (setterLead source.property) = source.setterLines := by
  have raised : source.raiseInvocation?.toList.map Invocation.line
      = source.raiseCall?.toList.map fun call => .flat (call ++ ";") := by
    rw [← raise_invocation_text]
    cases source.raiseInvocation? <;> simp [Invocation.line]
  rw [setter, setterLines, Property.hasSetEffects]
  by_cases effects : (source.property.usesManager || !source.property.alsoNotify.isEmpty) = true
  · rw [if_pos effects, if_pos effects]
    by_cases manager : source.property.usesManager = true <;>
      simp [manager, Setter.lines, Statement.lines, keptLines, changeLines, set_invocation_text,
        handler_invocations_lines, raised, oldValue]
  · rw [if_neg effects, if_neg effects]
    simp [Setter.lines, set_invocation_text]

end PropertySource

end ObservableGen.Source
