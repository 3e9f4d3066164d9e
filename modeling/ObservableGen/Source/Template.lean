import ObservableGen.Source.Writer
import ObservableGen.Text.Blank
import ObservableGen.Text.Lines
set_option autoImplicit false

/-!
Fixed source text with a place for the nullable mark, and its lines at any indentation.
-/
namespace ObservableGen.Source

namespace Template

def fill (mark : List Char) : List Char → List Char
  | '\x7b' :: '\x7b' :: 'n' :: 'u' :: 'l' :: 'l' :: 'a' :: 'b' :: 'l' :: 'e' :: '\x7d' :: '\x7d' ::
      rest => mark ++ fill mark rest
  | c :: rest => c :: fill mark rest
  | [] => []

def substitute (template mark : String) : String :=
  String.ofList (fill mark.toList template.toList)

-- How deep a line is indented: four bytes of white space a level.
def levelOf (line : List Char) : Nat :=
  (line.takeWhile Text.isBlank).foldl (fun bytes c => bytes + c.utf8Size) 0 / 4

-- A line without the white space around it, at the level it was indented to.
def lineOf (line : List Char) : Line :=
  match Text.trim line with
  | [] => .blank
  | text => ⟨levelOf line, String.ofList text⟩

def lines (source : String) : List Line :=
  (Text.lines source.toList).map lineOf

end Template

def Writer.writeRelative (writer : Writer) (source : String) : Writer :=
  writer.writeLines (Template.lines source)

end ObservableGen.Source
