import ObservableGen.Source.PropertyWriter
import ObservableGen.Source.TypeUnit
set_option autoImplicit false

/-!
A type's unit while it is written: one writer for all of its members, the declarations that it stands
in, and the number of members begun.
-/
namespace ObservableGen.Source

structure Sheet where
  hint : String
  writer : Writer
  scopes : Nat
  members : Nat

namespace Sheet

def openScope (sheet : Sheet) (head : String) : Sheet :=
  { sheet with writer := (sheet.writer.writeLine head).openBlock, scopes := sheet.scopes + 1 }

def start (header : UnitHeader) (type : DeclaredType) : Sheet :=
  (TypeUnit.scopes type).foldl openScope ⟨type.hint, Writer.empty.writeHeader header, 0, 0⟩

def member (sheet : Sheet) (write : Writer → Writer) : Sheet :=
  let begun := if sheet.members = 0 then sheet.writer else sheet.writer.blankLine
  { sheet with writer := write begun, members := sheet.members + 1 }

def closed (sheet : Sheet) : Writer :=
  TypeUnit.close sheet.scopes sheet.writer

def finish? (sheet : Sheet) : Option SourceUnit :=
  if sheet.members = 0 then none else some ⟨sheet.hint, sheet.closed.text⟩

def emitProperty (sheet : Sheet) (nullable : NullableMode) (shared : Shared) (property : Property) :
    Sheet × Shared :=
  let settled := shared.cache.settle property
  (sheet.member (settled.1.write nullable), ⟨settled.2, shared.managerUsed || property.usesManager⟩)

-- As texts are written, the names that they take; how many those are is the answer.
def emitNamed (seen : List String) (sheet : Sheet) : Json.Entries → List String × Sheet
  | [] => (seen, sheet)
  | (key, value) :: rest =>
    match Naming.propertyOfKey key with
    | none => emitNamed seen sheet rest
    | some name =>
      if seen.contains name then emitNamed seen sheet rest
      else emitNamed (name :: seen) (sheet.member (LocalizedText.write ⟨name, value⟩)) rest

def localize (sheet : Sheet) (localization : Localization) : Nat × Sheet :=
  let emitted := emitNamed [] sheet localization.entries
  (emitted.1.length, emitted.2)

def emitLocalized (sheet : Sheet) (localization : Localization) : Sheet :=
  (sheet.localize localization).2

def emitValidation (sheet : Sheet) (nullable : String) : Sheet :=
  sheet.member fun writer => writer.writeRelative (Template.substitute Validation.template nullable)

end Sheet

-- What a unit is asked for. Each request has marks and a shared state of its own.
inductive Request where
  | property (nullable : NullableMode) (shared : Shared) (property : Property)
  | localization (localization : Localization)
  | validation (nullable : String)

namespace Sheet

def take (sheet : Sheet) : Request → Sheet
  | .property nullable shared property => (sheet.emitProperty nullable shared property).1
  | .localization localization => sheet.emitLocalized localization
  | .validation nullable => sheet.emitValidation nullable

def composed (header : UnitHeader) (type : DeclaredType) (requests : List Request) : Sheet :=
  requests.foldl take (start header type)

end Sheet

end ObservableGen.Source
