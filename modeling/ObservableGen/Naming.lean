import ObservableGen.Identifier
import ObservableGen.Text.Blank
import ObservableGen.Text.LetterCase
import ObservableGen.Text.Segment
set_option autoImplicit false

/-!
How generated members are named after the members they are generated for.
-/
namespace ObservableGen

namespace Naming

def upperFirst (text : String) : String :=
  match text.toList with
  | [] => ""
  | first :: rest => String.ofList (Text.upperCase first ++ rest)

def lowerFirst (text : String) : String :=
  match text.toList with
  | [] => ""
  | first :: rest => String.ofList (Text.lowerCase first ++ rest)

-- Fields `_name` and `__name` give `Name`; a name made of underscores alone gives none.
def propertyOfField (field : String) : Option String :=
  match field.toList.dropWhile (· == '_') with
  | [] => none
  | stem => some (upperFirst (String.ofList stem))

-- A method's name without the ending `Async`, unless nothing is left without it.
def methodStem (method : String) : String :=
  match Text.beforeEnding? "Async" method with
  | some stem => if stem = "" then method else stem
  | none => method

def propertyOfMethod (method : String) : String :=
  upperFirst (methodStem method) ++ "Command"

def backingField (property : String) : String :=
  "_" ++ lowerFirst (Identifier.plain property)

def maskKeyPart (c : Char) : Char :=
  if Text.isAlphanumeric c then c else '_'

-- The property of a localization key: of the trimmed key, the first character goes to upper case if it
-- is a letter and to `_` otherwise, and every later one that is neither a letter nor a digit goes to
-- `_`. A blank key gives none.
def propertyOfKey (key : String) : Option String :=
  match Text.trim key.toList with
  | [] => none
  | first :: rest =>
    let lead := if Text.isAlphabetic first then Text.upperCase first else ['_']
    some (String.ofList (lead ++ rest.map maskKeyPart))

end Naming

end ObservableGen
