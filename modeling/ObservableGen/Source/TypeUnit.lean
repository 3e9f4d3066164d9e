import ObservableGen.Localization
import ObservableGen.Source.CommandManager
import ObservableGen.Source.PropertySource
import ObservableGen.Source.Validation
set_option autoImplicit false

/-!
The unit of one type. Its members are gathered as blocks; written out, they stand in partial
declarations of the type and its nesting types, a blank line between any two.
-/
namespace ObservableGen.Source

inductive Block where
  | property (source : PropertySource)
  | localized (text : LocalizedText)
  | validation
deriving DecidableEq, Repr, Inhabited

def Block.lines (nullable : NullableMode) : Block → List Line
  | property source => source.lines nullable
  | localized text => text.lines
  | validation => Validation.lines nullable.mark

-- What all units of a run share: the event-argument tokens, and whether the command manager is used.
structure Shared where
  cache : TokenCache
  managerUsed : Bool
deriving DecidableEq, Repr, Inhabited

def Shared.empty (cached : Bool) : Shared :=
  ⟨.empty cached, false⟩

structure TypeUnit where
  header : UnitHeader
  type : DeclaredType
  blocks : List Block
deriving Repr, Inhabited

namespace TypeUnit

def start (header : UnitHeader) (type : DeclaredType) : TypeUnit :=
  ⟨header, type, []⟩

def add (unit : TypeUnit) (block : Block) : TypeUnit :=
  { unit with blocks := unit.blocks ++ [block] }

def addProperty (unit : TypeUnit) (shared : Shared) (property : Property) : TypeUnit × Shared :=
  let settled := shared.cache.settle property
  (unit.add (.property settled.1), ⟨settled.2, shared.managerUsed || property.usesManager⟩)

def addLocalization (unit : TypeUnit) (localization : Localization) : Reported TypeUnit :=
  localization.texts.map fun texts => texts.foldl (fun unit text => unit.add (.localized text)) unit

def addValidation (unit : TypeUnit) : TypeUnit :=
  unit.add .validation

def scopes (type : DeclaredType) : List String :=
  (type.space?.map ("namespace " ++ ·)).toList ++ type.heads.map fun head => "partial " ++ head.text

def opened (unit : TypeUnit) : Writer :=
  (scopes unit.type).foldl (fun writer scope => (writer.writeLine scope).openBlock)
    (Writer.empty.writeHeader unit.header)

def writeBlocks (nullable : NullableMode) (writer : Writer) : List Block → Writer
  | [] => writer
  | [block] => writer.writeLines (block.lines nullable)
  | block :: next :: rest =>
    writeBlocks nullable (writer.writeLines (block.lines nullable)).blankLine (next :: rest)

def written (unit : TypeUnit) : Writer :=
  writeBlocks unit.header.nullable unit.opened unit.blocks

def close : Nat → Writer → Writer
  | 0, writer => writer
  | count + 1, writer => close count writer.closeBlock

def hint (unit : TypeUnit) : String :=
  unit.type.hint

def finish? (unit : TypeUnit) : Option SourceUnit :=
  if unit.blocks.isEmpty then none
  else some ⟨unit.hint, (close (scopes unit.type).length unit.written).text⟩

end TypeUnit

end ObservableGen.Source
