import ObservableGen.Source.Writer
set_option autoImplicit false

/-!
Sequences of calls on a writer.
-/
namespace ObservableGen.Source

-- The calls that a writer takes. The body of a block is a sequence of calls again.
inductive Instruction where
  | write (text : String)
  | writeLine (text : String)
  | writeLineAt (extra : Nat) (text : String)
  | blankLine
  | indent
  | dedent
  | openBlock
  | closeBlock
  | block (head : String) (body : List Instruction)

namespace Instruction

mutual
def run : Instruction → Writer → Writer
  | .write text, writer => writer.write text
  | .writeLine text, writer => writer.writeLine text
  | .writeLineAt extra text, writer => writer.writeLineAt extra text
  | .blankLine, writer => writer.blankLine
  | .indent, writer => writer.indent
  | .dedent, writer => writer.dedent
  | .openBlock, writer => writer.openBlock
  | .closeBlock, writer => writer.closeBlock
  | .block head body, writer => writer.block head (runAll body)

def runAll : List Instruction → Writer → Writer
  | [], writer => writer
  | first :: rest, writer => runAll rest (first.run writer)
end

end Instruction

end ObservableGen.Source
