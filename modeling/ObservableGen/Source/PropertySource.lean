import ObservableGen.Property
import ObservableGen.Source.TokenCache
set_option autoImplicit false

/-!
The source of an observable property: the arguments that its setter notifies with are settled
first, then the lines follow.
-/
namespace ObservableGen.Source

structure PropertySource where
  property : Property
  -- The token of the property's own name, if tokens are used.
  ownToken : Option String
  raised : List NotificationArgument
deriving DecidableEq, Repr, Inhabited

namespace TokenCache

-- Settles the notifications of a property; its own name is registered before the further ones.
def settle (cache : TokenCache) (property : Property) : PropertySource × TokenCache :=
  let own : Option String × TokenCache :=
    if cache.active then
      let registered := cache.register property.name
      (some registered.1, registered.2)
    else (none, cache)
  let further := own.2.arguments property.alsoNotify
  (⟨property, own.1, further.1⟩, further.2)

end TokenCache

namespace PropertySource

def managerType : String := "global::Minimal.Mvvm.RequerySuggestedEventManager"

def oldValue : String := "oldValue"

def callbackField (property : Property) : String :=
  property.backing ++ "ChangedCallback"

def delegateType (property : Property) (callback : Callback) : String :=
  "global::System.Action" ++ if callback.takesValue then "<" ++ property.valueType ++ ">" else ""

-- The argument that makes the callback's delegate where there is none yet.
def callbackArgument? (property : Property) : Option String :=
  property.callback.map fun callback => callbackField property ++ " ??= " ++ callback.name

def setArguments (source : PropertySource) : List String :=
  ["ref " ++ source.property.backing, "value"] ++ (source.ownToken.map TokenCache.reference).toList
    ++ (callbackArgument? source.property).toList

def setCall (source : PropertySource) : String :=
  "SetProperty(" ++ ", ".intercalate source.setArguments ++ ")"

def raiseCall? (source : PropertySource) : Option String :=
  match source.raised.map NotificationArgument.text with
  | [] => none
  | [argument] => some ("RaisePropertyChanged(" ++ argument ++ ")")
  | arguments => some ("RaisePropertiesChanged(" ++ ", ".intercalate arguments ++ ")")

def keptLines (property : Property) : List Line :=
  if property.usesManager then [.flat ("var " ++ oldValue ++ " = " ++ property.backing ++ ";")]
  else []

def managerLines (property : Property) : List Line :=
  if property.usesManager then
    [.flat (managerType ++ ".RemoveHandler(" ++ oldValue ++ ");"),
      .flat (managerType ++ ".AddHandler(value);")]
  else []

def changeLines (source : PropertySource) : List Line :=
  managerLines source.property ++ source.raiseCall?.toList.map fun call => .flat (call ++ ";")

def setterLead (property : Property) : String :=
  (property.access.setter?.map Access.lead).getD ""

def setterLines (source : PropertySource) : List Line :=
  let property := source.property
  if property.hasSetEffects then
    let tested := .flat ("if (" ++ source.setCall ++ ")") :: Line.braced source.changeLines
    .flat (setterLead property ++ "set") :: Line.braced (keptLines property ++ tested)
  else [.flat (setterLead property ++ "set => " ++ source.setCall ++ ";")]

def getterLine (property : Property) : Line :=
  .flat ((property.access.getter?.map Access.lead).getD "" ++ "get => " ++ property.backing ++ ";")

def callbackLines (nullable : NullableMode) (property : Property) : List Line :=
  match property.callback with
  | none => []
  | some callback =>
    [.flat ("private " ++ delegateType property callback ++ nullable.mark ++ " "
        ++ callbackField property ++ ";"), .blank]

def factoryLines (property : Property) : List Line :=
  match property.command with
  | none => []
  | some command =>
    [.blank, .flat ("private " ++ command.interfaceType ++ " Create" ++ property.name ++ "() => "
      ++ command.construction ++ ";")]

def backingLines (property : Property) : List Line :=
  if property.isMethodBacked then
    [.flat ("private " ++ property.valueType ++ " " ++ property.backing ++ ";")]
  else []

def leadLines (property : Property) : List Line :=
  (property.doc.getD []).map (fun line => Line.flat ("/// " ++ line))
    ++ property.customAttributes.map Line.flat

def lines (nullable : NullableMode) (source : PropertySource) : List Line :=
  let property := source.property
  callbackLines nullable property ++ backingLines property ++ leadLines property
    ++ [.flat (property.access.property.lead ++ property.valueType ++ " " ++ property.name)]
    ++ Line.braced (getterLine property :: source.setterLines)
    ++ factoryLines property

end PropertySource

end ObservableGen.Source
