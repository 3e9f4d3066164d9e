set_option autoImplicit false

/-!
A writer of indented lines. Indentation is written with the first text of a line, so that a line
without text has none.
-/
namespace ObservableGen.Source

-- A line and how many levels it stands deeper than what is around it.
structure Line where
  level : Nat
  text : String
deriving DecidableEq, Repr, Inhabited

namespace Line

def blank : Line := ⟨0, ""⟩

def flat (text : String) : Line := ⟨0, text⟩

def deeper (line : Line) : Line :=
  ⟨line.level + 1, line.text⟩

def braced (body : List Line) : List Line :=
  flat "\x7b" :: body.map deeper ++ [flat "\x7d"]

end Line

structure Writer where
  text : String
  level : Nat
  -- Nothing is written on the current line yet.
  fresh : Bool
deriving DecidableEq, Repr, Inhabited

namespace Writer

def empty : Writer :=
  ⟨"", 0, true⟩

def indentation (level : Nat) : String :=
  String.ofList (List.replicate (4 * level) ' ')

def indent (writer : Writer) : Writer :=
  { writer with level := writer.level + 1 }

-- One level less; level 0 stays.
def dedent (writer : Writer) : Writer :=
  { writer with level := writer.level - 1 }

def write (writer : Writer) (text : String) : Writer :=
  if text = "" then writer
  else
    let lead := if writer.fresh then indentation writer.level else ""
    { writer with text := writer.text ++ lead ++ text, fresh := false }

def blankLine (writer : Writer) : Writer :=
  { writer with text := writer.text ++ "\n", fresh := true }

def writeLine (writer : Writer) (text : String) : Writer :=
  (writer.write text).blankLine

def writeLineAt (writer : Writer) (extra : Nat) (text : String) : Writer :=
  let written := { writer with level := writer.level + extra }.writeLine text
  { written with level := written.level - extra }

def openBlock (writer : Writer) : Writer :=
  (writer.writeLine "\x7b").indent

def closeBlock (writer : Writer) : Writer :=
  writer.dedent.writeLine "\x7d"

def block (writer : Writer) (head : String) (body : Writer → Writer) : Writer :=
  (body (writer.writeLine head).openBlock).closeBlock

def writeLines (writer : Writer) (lines : List Line) : Writer :=
  lines.foldl (fun writer line => writer.writeLineAt line.level line.text) writer

theorem level_write (writer : Writer) (text : String) :
    (writer.write text).level = writer.level := by
  unfold write
  split <;> rfl

theorem level_write_line (writer : Writer) (text : String) :
    (writer.writeLine text).level = writer.level :=
  level_write writer text

theorem level_write_line_at (writer : Writer) (extra : Nat) (text : String) :
    (writer.writeLineAt extra text).level = writer.level := by
  simp [writeLineAt, level_write_line]

end Writer

end ObservableGen.Source
