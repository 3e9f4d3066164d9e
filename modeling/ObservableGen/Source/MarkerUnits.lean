import ObservableGen.Source.Unit
set_option autoImplicit false

/-!
The units that declare the attributes and the enumeration which steer generation. They are the same
in every run and carry no header.
-/
namespace ObservableGen.Source

namespace MarkerUnits

def declared (name : String) (lines : List Line) : SourceUnit :=
  let writer := Writer.empty.block "namespace Minimal.Mvvm" fun writer => writer.writeLines lines
  ⟨name ++ ".g.cs", writer.text⟩

def attributeClass (name targets : String) (repeatable : Bool) (members : List Line) : SourceUnit :=
  let allowMultiple := if repeatable then "true" else "false"
  declared name
    (.flat ("[global::System.AttributeUsage(" ++ targets ++ ", Inherited = false, AllowMultiple = "
        ++ allowMultiple ++ ")]")
      :: .flat ("internal sealed class " ++ name ++ " : global::System.Attribute")
      :: Line.braced members)

def memberTargets : String :=
  "global::System.AttributeTargets.Field | global::System.AttributeTargets.Method"

def classTarget : String := "global::System.AttributeTargets.Class"

def setOnce (className parameterType parameter type property : String) : List Line :=
  .flat ("public " ++ className ++ "(" ++ parameterType ++ " " ++ parameter ++ ")")
    :: Line.braced [.flat (property ++ " = " ++ parameter ++ ";")]
    ++ [.blank, .flat ("public " ++ type ++ " " ++ property ++ " \x7b get; \x7d")]

def named (type property initial : String) : Line :=
  .flat ("public " ++ type ++ " " ++ property ++ " \x7b get; set; \x7d" ++ initial)

def accessModifier : SourceUnit :=
  declared "AccessModifier" (.flat "internal enum AccessModifier" :: Line.braced
    [.flat "Default = 0,", .flat "Public = 6,", .flat "ProtectedInternal = 5,",
      .flat "Internal = 4,", .flat "Protected = 3,", .flat "PrivateProtected = 2,",
      .flat "Private = 1,"])

def notify : SourceUnit :=
  attributeClass "NotifyAttribute" memberTargets false
    (.flat "public NotifyAttribute()" :: Line.braced []
      ++ [.blank, .flat "public NotifyAttribute(string propertyName)"]
      ++ Line.braced [.flat "PropertyName = propertyName;"]
      ++ [.blank, named "string" "PropertyName" " = null!;",
        .blank, named "string" "CallbackName" " = null!;",
        .blank, named "bool" "PreferCallbackWithParameter" "",
        .blank, named "AccessModifier" "Getter" "",
        .blank, named "AccessModifier" "Setter" "",
        .blank, named "bool" "UseCommandManager" ""])

def alsoNotify : SourceUnit :=
  attributeClass "AlsoNotifyAttribute" memberTargets true
    (setOnce "AlsoNotifyAttribute" "params string[]" "propertyNames" "string[]" "PropertyNames")

def customAttribute : SourceUnit :=
  attributeClass "CustomAttributeAttribute" memberTargets true
    (setOnce "CustomAttributeAttribute" "string" "attribute" "string" "Attribute")

def localize : SourceUnit :=
  attributeClass "LocalizeAttribute" classTarget false
    (setOnce "LocalizeAttribute" "string" "jsonFileName" "string" "JsonFileName")

def notifyDataErrorInfo : SourceUnit :=
  attributeClass "NotifyDataErrorInfoAttribute" classTarget false []

def all : List SourceUnit :=
  [accessModifier, notify, alsoNotify, customAttribute, localize, notifyDataErrorInfo]

end MarkerUnits

end ObservableGen.Source
