import ObservableGen.Proofs.Layout
set_option autoImplicit false

/-!
Generated source with the calls that notify told apart from all other text. Main statement: a unit's
lines are these, so that whatever is said of the calls here is said of the text.
-/
namespace ObservableGen.Source

-- A place where a name is notified of, and the expression that stands there for it.
structure Site where
  name : String
  argument : String
deriving DecidableEq, Repr, Inhabited

inductive Call where
  | set (property : Property) (own : Option Site)
  | raise (sites : List Site)

namespace Call

def sites : Call → List Site
  | set _ own => own.toList
  | raise sites => sites

def text : Call → String
  | set property own =>
      "SetProperty(" ++ ", ".intercalate (["ref " ++ property.backing, "value"]
        ++ (own.map Site.argument).toList ++ (property.callback.map fun callback =>
          property.backing ++ "ChangedCallback" ++ " ??= " ++ callback.name).toList) ++ ")"
  | raise sites => match sites.map Site.argument with
      | [argument] => "RaisePropertyChanged(" ++ argument ++ ")"
      | arguments => "RaisePropertiesChanged(" ++ ", ".intercalate arguments ++ ")"

end Call

inductive SourceLine where
  | plain (line : Line)
  | call (level : Nat) (lead : String) (call : Call) (tail : String)

namespace SourceLine

def line : SourceLine → Line
  | plain line => line
  | call level lead inner tail => ⟨level, lead ++ inner.text ++ tail⟩

def sites : SourceLine → List Site
  | plain _ => []
  | call _ _ inner _ => inner.sites

def deeperBy (count : Nat) : SourceLine → SourceLine
  | plain line => plain (line.deeperBy count)
  | call level lead inner tail => call (level + count) lead inner tail

def braced (body : List SourceLine) : List SourceLine :=
  plain (.flat "\x7b") :: body.map (deeperBy 1) ++ [plain (.flat "\x7d")]

def nested (scopes : List String) (body : List SourceLine) : List SourceLine :=
  (openings scopes).map plain ++ body.map (deeperBy scopes.length)
    ++ (closings scopes.length).map plain

def separated : List (List SourceLine) → List SourceLine
  | [] => []
  | [group] => group
  | group :: next :: rest => group ++ plain .blank :: separated (next :: rest)

@[simp] theorem line_plain (line : Line) : (plain line).line = line := rfl

@[simp] theorem line_deeper (count : Nat) (source : SourceLine) :
    (source.deeperBy count).line = source.line.deeperBy count := by
  cases source <;> rfl

@[simp] theorem sites_of_plain (lines : List Line) : (lines.map plain).flatMap sites = [] := by
  rw [List.flatMap_map]
  exact List.flatMap_eq_nil_iff.mpr fun _ _ => rfl

@[simp] theorem sites_of_deeper (count : Nat) (body : List SourceLine) :
    (body.map (deeperBy count)).flatMap sites = body.flatMap sites := by
  have kept (source : SourceLine) : (source.deeperBy count).sites = source.sites := by
    cases source <;> rfl
  simp only [List.flatMap_map, kept]

theorem lines_plain (lines : List Line) : (lines.map plain).map line = lines := by
  simp [Function.comp_def]

theorem lines_braced (body : List SourceLine) :
    (braced body).map line = Line.braced (body.map line) := by
  simp [braced, Line.braced, Function.comp_def, Line.deeperBy, Line.deeper]

theorem sites_braced (body : List SourceLine) :
    (braced body).flatMap sites = body.flatMap sites := by
  simp [braced, sites]

theorem lines_nested (scopes : List String) (body : List SourceLine) :
    (nested scopes body).map line = Source.nested scopes (body.map line) := by
  simp [nested, Source.nested, Function.comp_def]

theorem sites_nested (scopes : List String) (body : List SourceLine) :
    (nested scopes body).flatMap sites = body.flatMap sites := by
  simp [nested]

theorem lines_separated (groups : List (List SourceLine)) :
    (separated groups).map line = Source.separated (groups.map (List.map line)) := by
  induction groups with
  | nil => rfl
  | cons group rest ih =>
      cases rest with
      | nil => rfl
      | cons next rest => simpa [separated, Source.separated] using ih

theorem sites_separated (groups : List (List SourceLine)) :
    (separated groups).flatMap sites = groups.flatMap (List.flatMap sites) := by
  induction groups with
  | nil => rfl
  | cons group rest ih =>
      cases rest with
      | nil => simp [separated]
      | cons next rest => simpa [separated, sites] using ih

end SourceLine

namespace PropertySource

def ownSite? (source : PropertySource) : Option Site :=
  source.ownToken.map fun ident =>
    ⟨Identifier.plain source.property.name, TokenCache.reference ident⟩

def raisedSites (source : PropertySource) : List Site :=
  (source.property.alsoNotify.zip source.raised).map fun pair =>
    ⟨Identifier.plain pair.1, pair.2.text⟩

def sites (source : PropertySource) : List Site :=
  source.ownSite?.toList ++ source.raisedSites

-- There is an argument for each further name.
def Complete (source : PropertySource) : Prop :=
  source.raised.length = source.property.alsoNotify.length

def setCalls (source : PropertySource) (lead tail : String) : List SourceLine :=
  [.call 0 lead (.set source.property source.ownSite?) tail]

def raiseCalls (source : PropertySource) : List SourceLine :=
  match source.raisedSites with
  | [] => []
  | sites => [.call 0 "" (.raise sites) ";"]

def setterSource (source : PropertySource) : List SourceLine :=
  let property := source.property
  if property.hasSetEffects then
    let changed := (managerLines property).map .plain ++ source.raiseCalls
    .plain (.flat (setterLead property ++ "set")) :: SourceLine.braced
      ((keptLines property).map .plain ++ source.setCalls "if (" ")" ++ SourceLine.braced changed)
  else source.setCalls (setterLead property ++ "set => ") ";"

def sourceLines (nullable : NullableMode) (source : PropertySource) : List SourceLine :=
  let property := source.property
  let head := callbackLines nullable property ++ backingLines property ++ leadLines property
    ++ [.flat (property.access.property.lead ++ property.valueType ++ " " ++ property.name)]
  head.map .plain ++ SourceLine.braced (.plain (getterLine property) :: source.setterSource)
    ++ (factoryLines property).map .plain

theorem raised_sites_arguments (source : PropertySource) (complete : source.Complete) :
    source.raisedSites.map Site.argument = source.raised.map NotificationArgument.text := by
  have second := List.map_snd_zip (Nat.le_of_eq complete)
  calc source.raisedSites.map Site.argument
      = ((source.property.alsoNotify.zip source.raised).map Prod.snd).map NotificationArgument.text := by
        simp [raisedSites, Function.comp_def]
    _ = source.raised.map NotificationArgument.text := by rw [second]

theorem set_calls_lines (source : PropertySource) (lead tail : String) :
    (source.setCalls lead tail).map SourceLine.line = [.flat (lead ++ source.setCall ++ tail)] := by
  cases token : source.ownToken <;>
    simp [setCalls, SourceLine.line, Call.text, setCall, setArguments, callbackArgument?, callbackField, ownSite?, token,
      Line.flat]

theorem raise_calls_lines (source : PropertySource) (complete : source.Complete) :
    source.raiseCalls.map SourceLine.line
      = source.raiseCall?.toList.map fun call => .flat (call ++ ";") := by
  have arguments := raised_sites_arguments source complete
  rw [raiseCall?, ← arguments, raiseCalls]
  cases source.raisedSites with
  | nil => rfl
  | cons first rest =>
      cases rest with
      | nil => simp [SourceLine.line, Call.text, Line.flat]
      | cons second rest => simp [SourceLine.line, Call.text, Line.flat]

theorem setter_source_lines (source : PropertySource) (complete : source.Complete) :
    source.setterSource.map SourceLine.line = source.setterLines := by
  rw [setterSource, setterLines]
  by_cases effects : source.property.hasSetEffects = true
  · simp [effects, SourceLine.lines_braced, set_calls_lines, raise_calls_lines source complete,
      changeLines, Function.comp_def]
  · simp [effects, set_calls_lines]

theorem source_lines_text (nullable : NullableMode) (source : PropertySource)
    (complete : source.Complete) :
    (source.sourceLines nullable).map SourceLine.line = source.lines nullable := by
  simp [sourceLines, lines, SourceLine.lines_braced, setter_source_lines source complete,
    Function.comp_def]

-- Sites stand in the text in the order in which the arguments are settled. Without consequences
-- beyond the property's own notification there are no further names.
theorem source_lines_sites (nullable : NullableMode) (source : PropertySource) :
    (source.sourceLines nullable).flatMap SourceLine.sites = source.sites := by
  have own (lead tail : String) :
      (source.setCalls lead tail).flatMap SourceLine.sites = source.ownSite?.toList := by
    simp [setCalls, SourceLine.sites, Call.sites]
  have further : source.raiseCalls.flatMap SourceLine.sites = source.raisedSites := by
    rw [raiseCalls]
    cases source.raisedSites with
    | nil => rfl
    | cons first rest => simp [SourceLine.sites, Call.sites]
  have setter : source.setterSource.flatMap SourceLine.sites = source.sites := by
    rw [setterSource, sites]
    by_cases effects : source.property.hasSetEffects = true
    · simp [effects, SourceLine.sites_braced, own, further, SourceLine.sites]
    · have alone : source.property.alsoNotify = [] := by
        simp [Property.hasSetEffects] at effects
        exact effects.2
      simp [effects, own, raisedSites, alone]
  simp [sourceLines, SourceLine.sites_braced, setter, SourceLine.sites]

end PropertySource

namespace Block

def sourceLines (nullable : NullableMode) : Block → List SourceLine
  | property source => source.sourceLines nullable
  | localized text => text.lines.map .plain
  | validation => (Validation.lines nullable.mark).map .plain

def sites : Block → List Site
  | property source => source.sites
  | localized _ | validation => []

def Complete : Block → Prop
  | property source => source.Complete
  | localized _ | validation => True

theorem block_lines_text (nullable : NullableMode) (block : Block) (complete : block.Complete) :
    (block.sourceLines nullable).map SourceLine.line = block.lines nullable := by
  cases block with
  | property source => exact PropertySource.source_lines_text nullable source complete
  | localized text => rw [sourceLines, SourceLine.lines_plain, lines]
  | validation => rw [sourceLines, SourceLine.lines_plain, lines]

theorem block_lines_sites (nullable : NullableMode) (block : Block) :
    (block.sourceLines nullable).flatMap SourceLine.sites = block.sites := by
  cases block with
  | property source => exact PropertySource.source_lines_sites nullable source
  | localized text => rw [sourceLines, SourceLine.sites_of_plain, sites]
  | validation => rw [sourceLines, SourceLine.sites_of_plain, sites]

end Block

namespace TypeUnit

def sourceLines (unit : TypeUnit) : List SourceLine :=
  unit.header.lines.map .plain ++ SourceLine.nested (scopes unit.type)
    (SourceLine.separated (unit.blocks.map (Block.sourceLines unit.header.nullable)))

def sites (unit : TypeUnit) : List Site :=
  unit.sourceLines.flatMap SourceLine.sites

theorem unit_lines_text (unit : TypeUnit) (complete : ∀ block ∈ unit.blocks, block.Complete) :
    unit.sourceLines.map SourceLine.line = unit.lines := by
  have blocks : (unit.blocks.map (Block.sourceLines unit.header.nullable)).map
      (List.map SourceLine.line) = unit.blocks.map (Block.lines unit.header.nullable) := by
    rw [List.map_map]
    exact List.map_congr_left fun block inside => Block.block_lines_text _ block (complete block inside)
  rw [sourceLines, List.map_append, SourceLine.lines_nested, SourceLine.lines_separated, blocks]
  simp [lines, Function.comp_def]

theorem unit_sites_blocks (unit : TypeUnit) : unit.sites = unit.blocks.flatMap Block.sites := by
  rw [sites, sourceLines, List.flatMap_append, SourceLine.sites_of_plain, List.nil_append,
    SourceLine.sites_nested, SourceLine.sites_separated, List.flatMap_map]
  simp only [Block.block_lines_sites]

end TypeUnit

end ObservableGen.Source
