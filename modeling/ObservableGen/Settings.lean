import ObservableGen.Identifier
import ObservableGen.Notice
import ObservableGen.Pass
import ObservableGen.Toml.Document
set_option autoImplicit false

/-!
Settings: what a TOML document may say about generation. Every key may be left out; what is not
known, or is of the wrong type, is refused.
-/
namespace ObservableGen

inductive SettingsError where
  | missingFile
  | notText
  -- The document is not TOML, or does not have the keys and types of settings.
  | malformed
  | emptyField (field : String)
  | invalidTypeName (name : String)
deriving DecidableEq, Repr, Inhabited

def SettingsError.message : SettingsError → String
  | missingFile => "the configuration file does not exist"
  | notText => "the configuration file is not UTF-8 text"
  | malformed => "invalid configuration: "
  | emptyField field => field ++ " must not be empty"
  | invalidTypeName name => "notify.observable_base '" ++ name ++ "' is not a valid type name"

structure Settings where
  name : String
  version : String
  observableBase : String
  cached : Bool
deriving DecidableEq, Repr, Inhabited

namespace Settings

open Toml (Value Entries)

def default : Settings :=
  let options := Options.default
  ⟨options.toolName, options.toolVersion, options.observableBase.path, options.cached⟩

abbrev Setter := Settings → Value → Option Settings

def setting {α : Type} (read? : Value → Option α) (put : Settings → α → Settings) : Setter :=
  fun settings value => (read? value).map (put settings)

abbrev Section := List (String × Setter)

-- Takes the entries of a table, each of which must have one of the section's keys.
def takeEntries (keys : Section) (settings : Settings) : Entries → Option Settings
  | [] => some settings
  | (key, value) :: rest =>
    match keys.find? fun known => known.1 == key with
    | none => none
    | some known =>
      match known.2 settings value with
      | none => none
      | some settings => takeEntries keys settings rest

-- Takes the items of an array for the section's keys in their order. Keys without an item keep what
-- they have, and items without a key are passed over.
def takeItems (settings : Settings) : Section → List Value → Option Settings
  | [], _ | _, [] => some settings
  | known :: keys, value :: rest =>
    match known.2 settings value with
    | none => none
    | some settings => takeItems settings keys rest

def takeSection (keys : Section) : Setter := fun settings value =>
  match value with
  | .table _ entries => takeEntries keys settings entries
  | .array items => takeItems settings keys items
  | .tables items => takeItems settings keys (items.map (.table .headed))
  | _ => none

def generatorKeys : Section :=
  [("name", setting Value.text? fun settings name => { settings with name := name }),
    ("version", setting Value.text? fun settings version => { settings with version := version })]

def notifyKeys : Section :=
  [("observable_base",
      setting Value.text? fun settings base => { settings with observableBase := base }),
    ("event_args_cache", setting Value.bool? fun settings cached => { settings with cached := cached })]

def sections : Section :=
  [("generator", takeSection generatorKeys), ("notify", takeSection notifyKeys)]

-- Whether a name could be a type's: identifiers with dots between them, perhaps behind the global
-- alias.
def isTypeName (name : String) : Bool :=
  let path := (Text.afterLead? TypeName.globalAlias name).getD name
  (path.toList.splitOn '.').all fun part =>
    Identifier.isIdentifier (String.ofList part)

def validated (settings : Settings) : Except SettingsError Settings :=
  if Text.isBlankText settings.name then .error (.emptyField "generator.name")
  else if Text.isBlankText settings.version then .error (.emptyField "generator.version")
  else if !isTypeName settings.observableBase then
    .error (.invalidTypeName settings.observableBase)
  else .ok settings

def read (document : String) : Except SettingsError Settings :=
  match (Toml.read? document).bind (takeEntries sections default) with
  | none => .error .malformed
  | some settings => settings.validated

def ofContent (content : Option ByteArray) : Reported (Except SettingsError Settings) :=
  match content with
  | none => .silent (.error .missingFile)
  | some bytes =>
    match String.fromUTF8? bytes with
    | none => .silent (.error .notText)
    | some document =>
      match read document with
      | .ok settings => ⟨.ok settings, [.settingsLoaded]⟩
      | .error reason => .silent (.error reason)

def toOptions (settings : Settings) : Options :=
  ⟨settings.name, settings.version, .ofText settings.observableBase, settings.cached⟩

theorem validated_iff (settings : Settings) : settings.validated = .ok settings ↔
    Text.isBlankText settings.name = false ∧ Text.isBlankText settings.version = false ∧
      isTypeName settings.observableBase = true := by
  unfold validated
  cases Text.isBlankText settings.name <;> cases Text.isBlankText settings.version <;>
    cases isTypeName settings.observableBase <;> simp

theorem default_validated : default.validated = .ok default :=
  default.validated_iff.mpr (by decide +kernel)

end Settings

inductive GenerationError where
  | settings (reason : SettingsError)
  | cancelled
deriving DecidableEq, Repr, Inhabited

structure Generation where
  polls : Nat
  outcome : Except GenerationError Output

namespace Generation

def run (settings : Settings) (host : Host) (candidates : List Candidate)
    (flag : Cancellation) : Reported Generation :=
  (Pass.run settings.toOptions host candidates flag).bind fun asked =>
    match asked.outcome with
    | .error .cancelled => .silent ⟨asked.polls, .error .cancelled⟩
    | .ok output =>
      ⟨⟨asked.polls, .ok output⟩, [.generated candidates.length output.units.length]⟩

def ofDocument (document : String) (host : Host) (candidates : List Candidate)
    (flag : Cancellation) : Reported Generation :=
  match Settings.read document with
  | .error reason => .silent ⟨0, .error (.settings reason)⟩
  | .ok settings => run settings host candidates flag

end Generation

end ObservableGen
