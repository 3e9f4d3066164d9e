import ObservableGen.Json.Text
set_option autoImplicit false

/-!
Why something is not generated, with the wording in which it is reported.
-/
namespace ObservableGen

inductive Rejection where
  | invalidIdentifier (member name : String)
  | missingNotify (member : String)
  -- The property has the name of its own backing field.
  | nameCollision (member name : String)
  -- No command wraps a method of this signature.
  | unsupportedSignature (member : String)
deriving DecidableEq, Repr, Inhabited

def Rejection.message : Rejection → String
  | invalidIdentifier member name =>
    "'" ++ member ++ "': property name '" ++ name ++ "' is not a valid identifier"
  | missingNotify member => "'" ++ member ++ "' has no Notify attribute"
  | nameCollision member name =>
    "'" ++ member ++ "': property name '" ++ name ++ "' collides with its backing field"
  | unsupportedSignature member =>
    "'" ++ member ++ "': no command can wrap this method signature"

inductive LocalizationFailure where
  | missingResource (resource : String)
  | noResourceName
  | unreadable (resource : String) (fault : Json.Fault)
deriving DecidableEq, Repr, Inhabited

def LocalizationFailure.message : LocalizationFailure → String
  | missingResource resource =>
    "localization resource '" ++ resource ++ "' is not among the additional texts"
  | noResourceName => "type has no Localize resource name"
  | unreadable resource _ => "localization resource '" ++ resource ++ "' is not a flat string map: "

end ObservableGen
