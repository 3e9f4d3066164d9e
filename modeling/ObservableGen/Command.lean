import ObservableGen.Compilation.Host
set_option autoImplicit false

/-!
Commands that wrap methods: which signatures can be wrapped, and the C# text of a command's type
and construction.
-/
namespace ObservableGen

inductive CommandKind where
  | relay
  | async
deriving DecidableEq, Repr, Inhabited

structure Command where
  kind : CommandKind
  parameter : Option TypeUse
  cancellable : Bool
  method : String
deriving DecidableEq, Repr, Inhabited

namespace Command

def kindOfReturn? (returns : TypeUse) : Option CommandKind :=
  if returns.isVoid then some .relay
  else if returns.isTask then some .async
  else none

def endsWithToken (parameters : List Parameter) : Bool :=
  match parameters.getLast? with
  | some last => last.type.isCancellationToken
  | none => false

def valueParameters (parameters : List Parameter) : List Parameter :=
  if endsWithToken parameters then parameters.dropLast else parameters

-- The command that wraps a method: it returns nothing or a task, and takes at most one value and,
-- behind it, a cancellation token if it returns a task.
def ofMethod? (method : MethodMember) : Option Command :=
  let cancellable := endsWithToken method.parameters
  match kindOfReturn? method.returns with
  | none => none
  | some kind =>
    if cancellable && kind == .relay then none
    else match valueParameters method.parameters with
      | [] => some ⟨kind, none, cancellable, method.name⟩
      | [value] => some ⟨kind, some value.type, cancellable, method.name⟩
      | _ => none

def typeArguments (command : Command) : String :=
  match command.parameter with
  | none => ""
  | some parameter => "<" ++ parameter.display ++ ">"

def interfaceType (command : Command) : String :=
  let interface := match command.kind, command.parameter with
    | .relay, none => "global::System.Windows.Input.ICommand"
    | .relay, some _ => "global::Minimal.Mvvm.ICommand"
    | .async, _ => "global::Minimal.Mvvm.IAsyncCommand"
  interface ++ command.typeArguments

def forwarded (command : Command) : List String :=
  if command.parameter.isSome then ["parameter", "cancellationToken"] else ["cancellationToken"]

def delegate (command : Command) : String :=
  if command.cancellable then
    let arguments := "(" ++ ", ".intercalate command.forwarded ++ ")"
    let parameters := if command.parameter.isSome then arguments else "cancellationToken"
    parameters ++ " => " ++ command.method ++ arguments
  else command.method

def construction (command : Command) : String :=
  let wrapper := match command.kind with
    | .relay => "global::Minimal.Mvvm.RelayCommand"
    | .async => "global::Minimal.Mvvm.AsyncCommand"
  "new " ++ wrapper ++ command.typeArguments ++ "(" ++ command.delegate ++ ")"

def interfaceName : TypeName := ⟨"System.Windows.Input.ICommand"⟩

def knownTypes : List String :=
  ["System.Windows.Input.ICommand", "Minimal.Mvvm.ICommand", "Minimal.Mvvm.IAsyncCommand",
    "Minimal.Mvvm.IRelayCommand", "Minimal.Mvvm.RelayCommand", "Minimal.Mvvm.AsyncCommand"]

def isCommandType (host : Host) (type : TypeUse) : Bool :=
  knownTypes.contains (Text.beforeFirst (· == '<') type.name.path)
    || host.implements type.name interfaceName

theorem value_parameters_length_le (parameters : List Parameter) :
    (valueParameters parameters).length ≤ parameters.length := by
  unfold valueParameters
  split
  · simp
  · exact Nat.le_refl _

theorem command_method_name (method : MethodMember) (command : Command)
    (wrapped : ofMethod? method = some command) : command.method = method.name := by
  simp only [ofMethod?] at wrapped
  repeat' split at wrapped
  all_goals simp_all
  all_goals rw [← wrapped]

end Command

end ObservableGen
