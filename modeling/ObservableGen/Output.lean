import ObservableGen.Digest.XXH3
import ObservableGen.Source.MarkerUnits
import ObservableGen.Source.TypeUnit
set_option autoImplicit false

/-!
The output of a run: its source units in order, and a digest of them.
-/
namespace ObservableGen

open Source

structure Output where
  units : List SourceUnit
deriving DecidableEq, Repr, Inhabited

namespace Output

def terminated (text : String) : List UInt8 :=
  text.toUTF8.data.toList ++ [0]

-- The bytes that the digest is taken of: each unit's hint and text, each with a zero behind.
def framed (units : List SourceUnit) : List UInt8 :=
  units.flatMap fun unit => terminated unit.hint ++ terminated unit.text

def digested (output : Output) : ByteArray :=
  ⟨(framed output.units).toArray⟩

def fingerprint (output : Output) : UInt64 :=
  Digest.XXH3.hash output.digested

def unit? (output : Output) (hint : String) : Option SourceUnit :=
  Source.unit? output.units hint

def assemble (header : UnitHeader) (types : List TypeUnit) (shared : Shared) : Output :=
  ⟨MarkerUnits.all ++ types.filterMap TypeUnit.finish? ++ (shared.cache.unit? header).toList
    ++ (CommandManager.unit? shared.managerUsed header).toList⟩

end Output

end ObservableGen
