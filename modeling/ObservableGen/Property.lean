import ObservableGen.Callback
import ObservableGen.Command
import ObservableGen.Compilation.Candidate
import ObservableGen.MemberAttributes
import ObservableGen.Naming
import ObservableGen.NotifyArguments
set_option autoImplicit false

/-!
Observable properties: all that is to be known of one before it is written, and how it follows from
the member it is generated for.
-/
namespace ObservableGen

structure Property where
  name : String
  backing : String
  valueType : String
  callback : Option Callback
  alsoNotify : List String
  customAttributes : List String
  access : AccessSplit
  usesManager : Bool
  command : Option Command
  doc : Option (List String)
deriving DecidableEq, Repr, Inhabited

namespace Property

def isMethodBacked (property : Property) : Bool :=
  property.command.isSome

def hasSetEffects (property : Property) : Bool :=
  property.usesManager || !property.alsoNotify.isEmpty

-- Accepts a property whose name is an identifier other than its backing field.
def validated (property : Property) (member : String) : Except Rejection Property :=
  if !Identifier.isIdentifier property.name then
    .error (.invalidIdentifier member property.name)
  else if property.name = property.backing then .error (.nameCollision member property.name)
  else .ok property

def callbackOf (host : Host) (owner : Option DeclaredType)
    (arguments : NotifyArguments) (valueType : TypeUse) : Option Callback :=
  arguments.callbackName?.map fun name =>
    Callback.resolve host owner name valueType arguments.preferParameter

def accessOf (arguments : NotifyArguments) : AccessSplit :=
  AccessSplit.resolve (arguments.getter.getD .unspecified) (arguments.setter.getD .unspecified)

-- The property of a field: the one asked for, or the field's own without its underscores.
def fieldPropertyName? (arguments : NotifyArguments) (field : FieldMember) : Option String :=
  arguments.propertyName?.orElse fun _ => Naming.propertyOfField field.name

def ofFieldArguments (host : Host) (owner : Option DeclaredType)
    (arguments : NotifyArguments) (field : FieldMember) : Reported (Except Rejection Property) :=
  match fieldPropertyName? arguments field with
  | none => .silent (.error (.invalidIdentifier field.name ""))
  | some name =>
    let asked := arguments.useManager = some true
    let applies := Command.isCommandType host field.type
    let property : Property :=
      { name := name
        backing := field.name
        valueType := field.type.display
        callback := callbackOf host owner arguments field.type
        alsoNotify := MemberAttributes.alsoNotified field.attributes
        customAttributes := MemberAttributes.customAttributes field.attributes
        access := accessOf arguments
        usesManager := asked && applies
        command := none
        doc := field.doc }
    ⟨property.validated field.name,
      if asked && !applies then [.managerIgnored field.name field.type] else []⟩

def ofMethodArguments (host : Host) (owner : Option DeclaredType)
    (arguments : NotifyArguments) (method : MethodMember) : Except Rejection Property :=
  match Command.ofMethod? method with
  | none => .error (.unsupportedSignature method.name)
  | some command =>
    let name := arguments.propertyName?.getD (Naming.propertyOfMethod method.name)
    let type : TypeUse := ⟨command.interfaceType, host.nullable.annotates⟩
    let property : Property :=
      { name := name
        backing := Naming.backingField name
        valueType := type.display
        callback := callbackOf host owner arguments type
        alsoNotify := MemberAttributes.alsoNotified method.attributes
        customAttributes := MemberAttributes.customAttributes method.attributes
        access := accessOf arguments
        usesManager := arguments.useManager = some true
        command := some command
        doc := method.doc }
    property.validated method.name

-- Goes on with the arguments of the first Notify attribute.
def withArguments (member : String) (attributes : List Attribute)
    (next : NotifyArguments → Reported (Except Rejection Property)) :
    Reported (Except Rejection Property) :=
  match Attribute.findBySimpleName attributes AttributeClass.notify.path with
  | none => .silent (.error (.missingNotify member))
  | some applied =>
    (next (NotifyArguments.ofAttribute applied)).after (NotifyArguments.notices applied)

def ofField (host : Host) (owner : Option DeclaredType) (field : FieldMember) :
    Reported (Except Rejection Property) :=
  withArguments field.name field.attributes fun arguments =>
    ofFieldArguments host owner arguments field

def ofMethod (host : Host) (owner : Option DeclaredType) (method : MethodMember) :
    Reported (Except Rejection Property) :=
  withArguments method.name method.attributes fun arguments =>
    .silent (ofMethodArguments host owner arguments method)

def ofTarget? (host : Host) (owner : Option DeclaredType) :
    Target → Option (Reported (Except Rejection Property))
  | .field member => some (ofField host owner member)
  | .method member => some (ofMethod host owner member)
  | .type _ => none

theorem validated_eq_ok (property accepted : Property) (member : String)
    (valid : property.validated member = .ok accepted) :
    accepted = property ∧ Identifier.isIdentifier property.name = true
      ∧ property.name ≠ property.backing := by
  unfold validated at valid
  repeat' split at valid
  · cases valid
  · cases valid
  · rename_i identifier different
    cases valid
    exact ⟨rfl, by simpa using identifier, different⟩

end Property

end ObservableGen
