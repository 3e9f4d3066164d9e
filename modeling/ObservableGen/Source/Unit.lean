import ObservableGen.Compilation.TypeName
import ObservableGen.Source.Writer
set_option autoImplicit false

/-!
Generated source units and the header they open with.
-/
namespace ObservableGen.Source

structure SourceUnit where
  hint : String
  text : String
deriving DecidableEq, Repr, Inhabited

structure UnitHeader where
  toolName : String
  toolVersion : String
  nullable : NullableMode
deriving DecidableEq, Repr, Inhabited

namespace UnitHeader

def lines (header : UnitHeader) : List Line :=
  let directive := match header.nullable.directive with
    | none => []
    | some text => [.flat text, .blank]
  [.flat "// <auto-generated>",
    .flat ("//     Auto-generated by " ++ header.toolName ++ " " ++ header.toolVersion),
    .flat "// </auto-generated>", .blank] ++ directive

end UnitHeader

def Writer.writeHeader (writer : Writer) (header : UnitHeader) : Writer :=
  writer.writeLines header.lines

def namespaceUnit (header : UnitHeader) (hint space : String) (body : List Line) : SourceUnit :=
  let writer := (Writer.empty.writeHeader header).block ("namespace " ++ space) fun writer =>
    writer.writeLines body
  ⟨hint, writer.text⟩

def unit? (units : List SourceUnit) (hint : String) : Option SourceUnit :=
  units.find? fun unit => unit.hint == hint

end ObservableGen.Source
