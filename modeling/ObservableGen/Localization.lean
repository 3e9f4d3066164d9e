import ObservableGen.Compilation.Host
import ObservableGen.Json.StringMap
import ObservableGen.MemberAttributes
import ObservableGen.Naming
import ObservableGen.Notice
import ObservableGen.Source.Literal
import ObservableGen.Source.Writer
set_option autoImplicit false

/-!
Localized texts: a resource is read, its keys are mapped onto property names, and each name gives
one property.
-/
namespace ObservableGen

structure Localization where
  resource : String
  entries : Json.Entries
deriving DecidableEq, Repr, Inhabited

structure LocalizedText where
  name : String
  value : String
deriving DecidableEq, Repr, Inhabited

namespace Localization

def read (resource json : String) : Except LocalizationFailure Localization :=
  match Json.readStringMap json with
  | .ok entries => .ok ⟨resource, entries⟩
  | .error fault => .error (.unreadable resource fault)

def load (host : Host) (attributes : List Attribute) : Except LocalizationFailure Localization :=
  match MemberAttributes.localizeResource attributes with
  | none => .error .noResourceName
  | some resource =>
    match host.text? resource with
    | none => .error (.missingResource resource)
    | some file => read resource file.text

-- The texts of the entries in order. A blank key is passed over, and so is a key whose name is among
-- `seen` or the names before it.
def textsFrom (resource : String) (seen : List String) :
    Json.Entries → Reported (List LocalizedText)
  | [] => .silent []
  | (key, value) :: rest =>
    match Naming.propertyOfKey key with
    | none => (textsFrom resource seen rest).after [.emptyKeySkipped resource]
    | some name =>
      if seen.contains name then
        (textsFrom resource seen rest).after [.repeatedKeySkipped resource key name]
      else (textsFrom resource (name :: seen) rest).map (⟨name, value⟩ :: ·)

def texts (localization : Localization) : Reported (List LocalizedText) :=
  textsFrom localization.resource [] localization.entries

end Localization

namespace LocalizedText

open Source

def lines (text : LocalizedText) : List Line :=
  [.flat "/// <summary>",
    .flat ("/// Looks up a localized string similar to " ++ Doc.text text.value ++ "."),
    .flat "/// </summary>",
    .flat ("public static string " ++ text.name ++ " \x7b get; set; \x7d = "
      ++ Literal.quote text.value ++ ";")]

def write (text : LocalizedText) (writer : Writer) : Writer :=
  let opened := writer.writeLine "/// <summary>"
  let summed := opened.writeLine ("/// Looks up a localized string similar to " ++ Doc.text text.value ++ ".")
  let closed := summed.writeLine "/// </summary>"
  closed.writeLine ("public static string " ++ text.name ++ " \x7b get; set; \x7d = "
    ++ Literal.quote text.value ++ ";")

end LocalizedText

end ObservableGen
