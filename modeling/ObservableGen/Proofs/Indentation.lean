import ObservableGen.Proofs.Layout
set_option autoImplicit false

/-!
Source texts moved to another level. Main statement: what a text is moved to is read back at exactly the level that it
was moved to, so that levels add up; and moved or not, it has its lines, none of which ends in white space.
-/
namespace ObservableGen.Source

namespace Template

-- A line at its own level below another one.
def relined (level : Nat) (line : List Char) : List Char :=
  match Text.trim line with
  | [] => []
  | text => List.replicate (4 * (level + levelOf line)) ' ' ++ text

theorem relined_blank (level : Nat) (line : List Char) (blank : Text.trim line = []) : relined level line = [] := by
  rw [relined, blank]

theorem relined_filled (level : Nat) (line : List Char) (filled : Text.trim line ≠ []) :
    relined level line = List.replicate (4 * (level + levelOf line)) ' ' ++ Text.trim line := by
  unfold relined
  split
  · contradiction
  · rfl

theorem indent_blank (count : Nat) : ∀ c ∈ List.replicate count ' ', Text.isBlank c = true := by
  intro c inside
  rw [List.eq_of_mem_replicate inside]
  decide

-- Four blanks are four bytes, whatever white space they stand for.
theorem level_of_indent (level : Nat) (text : List Char) (bare : ∀ c, text.head? = some c → Text.isBlank c = false) :
    levelOf (List.replicate (4 * level) ' ' ++ text) = level := by
  have front : text.takeWhile Text.isBlank = [] := by
    cases text with
    | nil => rfl
    | cons c rest => rw [List.takeWhile_cons_of_neg (by simp [bare c rfl])]
  have bytes (count start : Nat) :
      (List.replicate count ' ').foldl (fun bytes c => bytes + c.utf8Size) start = start + count := by
    induction count generalizing start with
    | zero => rfl
    | succ count ih =>
        have blank : ' '.utf8Size = 1 := by decide
        rw [List.replicate_succ, List.foldl_cons, ih, blank]
        omega
  rw [levelOf, List.takeWhile_append_of_pos (indent_blank _), front, List.append_nil, bytes]
  omega

theorem trim_relined (level : Nat) (line : List Char) : Text.trim (relined level line) = Text.trim line := by
  by_cases blank : Text.trim line = []
  · rw [relined_blank level line blank, blank]
    rfl
  · rw [relined_filled level line blank, Text.trim_blank_front _ _ (indent_blank _), Text.trim_trim]

theorem relined_relined (outer inner : Nat) (line : List Char) :
    relined outer (relined inner line) = relined (outer + inner) line := by
  by_cases blank : Text.trim line = []
  · rw [relined_blank _ line blank, relined_blank _ line blank]
    rfl
  · have kept := trim_relined inner line
    have level : levelOf (relined inner line) = inner + levelOf line := by
      rw [relined_filled inner line blank]
      exact level_of_indent _ _ (Text.head_trim line)
    rw [relined_filled outer _ (kept ▸ blank), kept, level, relined_filled _ line blank, Nat.add_assoc]

theorem relined_ends (level : Nat) (line : List Char) (c : Char) (last : (relined level line).getLast? = some c) :
    Text.isBlank c = false := by
  by_cases blank : Text.trim line = []
  · rw [relined_blank level line blank] at last
    cases last
  · rw [relined_filled level line blank, List.getLast?_append] at last
    cases own : (Text.trim line).getLast? with
    | none => exact absurd (List.getLast?_eq_none_iff.mp own) blank
    | some d =>
        rw [own] at last
        cases last
        exact Text.last_trim line c own

theorem relined_feedless (level : Nat) (line : List Char) (clean : '\n' ∉ line) : '\n' ∉ relined level line := by
  by_cases blank : Text.trim line = []
  · rw [relined_blank level line blank]
    exact List.not_mem_nil
  · rw [relined_filled level line blank, List.mem_append, not_or]
    refine ⟨fun inside => ?_, fun inside => clean (Text.trim_subset line inside)⟩
    cases List.eq_of_mem_replicate inside

-- A line that is written is its text as it stands, and the line feed behind it.
theorem line_written (level : Nat) (line : List Char) :
    ((lineOf line).written level).toList = relined level line ++ ['\n'] := by
  unfold lineOf
  split
  · rename_i blank
    simp [relined_blank level line blank, Line.written, Line.blank]
  · rename_i filled
    have some : String.ofList (Text.trim line) ≠ "" := by
      intro empty
      exact filled (by simpa using congrArg String.toList empty)
    rw [Line.written, if_neg some, relined_filled level line filled]
    simp [Writer.indentation]

theorem lines_written (level : Nat) (source : String) :
    (rendered level (lines source)).toList
      = ((Text.lines source.toList).map (relined level)).flatMap (· ++ ['\n']) := by
  rw [lines]
  induction Text.lines source.toList with
  | nil => rfl
  | cons line rest ih => simp [rendered, line_written, ih]

end Template

-- What is written for a source text at the start of a line.
def reindented (level : Nat) (source : String) : String :=
  ((⟨"", level, true⟩ : Writer).writeRelative source).text

theorem written_relative (text : String) (level : Nat) (source : String) :
    (⟨text, level, true⟩ : Writer).writeRelative source = ⟨text ++ reindented level source, level, true⟩ := by
  have alone := Writer.write_lines ⟨"", level, true⟩ (Template.lines source) rfl
  rw [reindented, Writer.writeRelative, Writer.writeRelative, alone, Writer.write_lines _ _ rfl]
  simp [Writer.behind]

theorem reindented_text (level : Nat) (source : String) : (reindented level source).toList
    = ((Text.lines source.toList).map (Template.relined level)).flatMap (· ++ ['\n']) := by
  rw [reindented, Writer.writeRelative, Writer.write_lines _ _ rfl, ← Template.lines_written]
  simp [Writer.behind]

-- What is written is read as the lines that were meant, since none of them ends in a carriage return.
theorem reindented_lines (level : Nat) (source : String) :
    Text.lines (reindented level source).toList = (Text.lines source.toList).map (Template.relined level) := by
  rw [reindented_text]
  apply Text.lines_ended
  intro written listed
  obtain ⟨line, own, rfl⟩ := List.mem_map.mp listed
  refine ⟨Template.relined_feedless level line (Text.lines_whole _ line own), fun carriage => ?_⟩
  cases Template.relined_ends level line '\r' carriage

theorem reindented_reindented (outer inner : Nat) (source : String) :
    reindented outer (reindented inner source) = reindented (outer + inner) source := by
  rw [← String.toList_inj, reindented_text outer, reindented_lines, List.map_map, reindented_text]
  congr 2
  funext line
  exact Template.relined_relined outer inner line

theorem reindentation_composes (outer inner : Nat) (source : String) :
    (∀ text, (⟨text, inner, true⟩ : Writer).writeRelative source = ⟨text ++ reindented inner source, inner, true⟩) ∧
    reindented outer (reindented inner source) = reindented (outer + inner) source ∧
    reindented 0 (reindented 0 source) = reindented 0 source ∧
    let written := Text.lines (reindented inner source).toList
    (reindented inner source).toList = written.flatMap (· ++ ['\n']) ∧
    written = (Text.lines source.toList).map (Template.relined inner) ∧
    written.length = (Text.lines source.toList).length ∧
    ∀ line ∈ written, (line.all Text.isBlank = true → line = []) ∧
      ∀ c, line.getLast? = some c → Text.isBlank c = false := by
  have lines := reindented_lines inner source
  refine ⟨fun text => written_relative text inner source, reindented_reindented outer inner source,
    reindented_reindented 0 0 source, ?_, lines, ?_, ?_⟩
  · rw [lines]
    exact reindented_text inner source
  · rw [lines, List.length_map]
  · intro line listed
    rw [lines] at listed
    obtain ⟨own, _, rfl⟩ := List.mem_map.mp listed
    have ends := Template.relined_ends inner own
    refine ⟨fun blank => ?_, ends⟩
    rw [← List.getLast?_eq_none_iff, Option.eq_none_iff_forall_ne_some]
    intro c last
    have white := List.all_eq_true.mp blank c (List.mem_of_getLast? last)
    rw [ends c last] at white
    cases white

-- One wide blank and a tab are four bytes; the carriage return inside the third line stays there.
theorem mixed_text_moved :
    let source := "\u3000\tif\r\n \u00A0 \n      a\rb\u2003\r\nend"
    let moved := "        if\n\n        a\rb\n    end\n"
    reindented 1 source = moved ∧ reindented 2 moved = reindented 3 source ∧
      (Text.lines source.toList).length = 4 ∧ (Text.lines moved.toList).length = 4 ∧
      ∀ line ∈ Text.lines moved.toList, (line.all Text.isBlank = true → line = []) ∧
        ∀ c, line.getLast? = some c → Text.isBlank c = false := by
  intro source moved
  obtain ⟨_, composed, _, _, _, count, bare⟩ := reindentation_composes 2 1 source
  have written : reindented 1 source = moved := by decide +kernel
  have lines : (Text.lines source.toList).length = 4 := by decide +kernel
  rw [written] at composed count bare
  exact ⟨written, composed, lines, count.trans lines, bare⟩

end ObservableGen.Source
