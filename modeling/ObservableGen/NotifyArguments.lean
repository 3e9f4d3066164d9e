import ObservableGen.Access
import ObservableGen.Compilation.Attribute
import ObservableGen.Notice
import ObservableGen.Text.Blank
set_option autoImplicit false

/-!
The arguments of a `[Notify]` attribute. An argument that was not given is kept apart from one that
states a default.
-/
namespace ObservableGen

structure NotifyArguments where
  propertyName : Option String
  callbackName : Option String
  preferParameter : Option Bool
  getter : Option Access
  setter : Option Access
  useManager : Option Bool
deriving DecidableEq, Repr, Inhabited

namespace NotifyArguments

def unset : NotifyArguments :=
  ⟨none, none, none, none, none, none⟩

inductive Key where
  | propertyName
  | callbackName
  | preferParameter
  | getter
  | setter
  | useManager
deriving DecidableEq, Repr, Inhabited

namespace Key

def all : List Key :=
  [propertyName, callbackName, preferParameter, getter, setter, useManager]

def name : Key → String
  | propertyName => "PropertyName"
  | callbackName => "CallbackName"
  | preferParameter => "PreferCallbackWithParameter"
  | getter => "Getter"
  | setter => "Setter"
  | useManager => "UseCommandManager"

def ofName? (name : String) : Option Key :=
  all.find? fun key => key.name == name

theorem key_of_own_name (key : Key) : ofName? key.name = some key := by
  cases key <;> decide

end Key

-- An access given as a value of its enumeration; an unknown value counts as not given.
def access? (value : Constant) : Option Access :=
  value.asInt?.bind Access.ofValue?

-- Takes one more named argument, which replaces an earlier one of its name. A value of the wrong kind
-- unsets it.
def take (arguments : NotifyArguments) (argument : String × Constant) : NotifyArguments :=
  match Key.ofName? argument.1 with
  | some .propertyName => { arguments with propertyName := argument.2.asText? }
  | some .callbackName => { arguments with callbackName := argument.2.asText? }
  | some .preferParameter => { arguments with preferParameter := argument.2.asBool? }
  | some .getter => { arguments with getter := access? argument.2 }
  | some .setter => { arguments with setter := access? argument.2 }
  | some .useManager => { arguments with useManager := argument.2.asBool? }
  | none => arguments

def ofAttribute (applied : Attribute) : NotifyArguments :=
  let positional := { unset with propertyName := applied.positional.head?.bind Constant.asText? }
  applied.named.foldl take positional

def noticesOfArgument (argument : String × Constant) : List Notice :=
  match Key.ofName? argument.1 with
  | none => [.unexpectedArgument argument.1]
  | some .getter | some .setter =>
    match argument.2.asInt? with
    | none => []
    | some value =>
      if (Access.ofValue? value).isSome then [] else [.unknownAccess argument.1 value]
  | some _ => []

def notices (applied : Attribute) : List Notice :=
  applied.named.flatMap noticesOfArgument

def propertyName? (arguments : NotifyArguments) : Option String :=
  arguments.propertyName.filter fun name => !Text.isBlankText name

def callbackName? (arguments : NotifyArguments) : Option String :=
  arguments.callbackName.filter fun name => !Text.isBlankText name

theorem take_unknown (arguments : NotifyArguments) (name : String) (value : Constant)
    (unknown : Key.ofName? name = none) : arguments.take (name, value) = arguments := by
  simp [take, unknown]

end NotifyArguments

end ObservableGen
