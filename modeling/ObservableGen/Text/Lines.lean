import ObservableGen.Text.Segment
set_option autoImplicit false

/-!
The lines of a text. A line feed ends a line and takes a carriage return right before it along;
a carriage return elsewhere is an ordinary character.
-/
namespace ObservableGen.Text

-- A line without the carriage return that stood before its line feed.
def dropReturn (line : List Char) : List Char :=
  if line.getLast? = some '\r' then line.dropLast else line

-- What follows the last line feed is a line only if it holds a character.
def lines (text : List Char) : List (List Char) :=
  let parts := text.splitOn '\n'
  let unended := match parts.getLast? with
    | none | some [] => []
    | some line => [line]
  parts.dropLast.map dropReturn ++ unended

theorem lines_whole (text : List Char) : ∀ line ∈ lines text, '\n' ∉ line := by
  have parts := split_whole '\n' text
  intro line listed
  rcases List.mem_append.mp listed with ended | unended
  · obtain ⟨part, front, rfl⟩ := List.mem_map.mp ended
    have clean := parts part (List.dropLast_subset _ front)
    unfold dropReturn
    split
    · exact fun inside => clean (List.dropLast_subset _ inside)
    · exact clean
  · cases last : (text.splitOn '\n').getLast? with
    | none => simp [last] at unended
    | some part =>
        cases part with
        | nil => simp [last] at unended
        | cons c rest =>
            rw [last] at unended
            rw [List.mem_singleton.mp unended]
            exact parts _ (List.mem_of_getLast? last)

-- Each line may hold carriage returns, but not where a line feed would take it along.
theorem lines_ended (written : List (List Char))
    (each : ∀ line ∈ written, '\n' ∉ line ∧ line.getLast? ≠ some '\r') :
    lines (written.flatMap (· ++ ['\n'])) = written := by
  have parts : (written.flatMap (· ++ ['\n'])).splitOn '\n' = written ++ [[]] := by
    induction written with
    | nil => rfl
    | cons line rest ih =>
        obtain ⟨first, others⟩ := List.forall_mem_cons.mp each
        rw [List.flatMap_cons, List.append_assoc, List.singleton_append,
          List.splitOn_append_cons_self_of_not_mem first.1, ih others, List.cons_append]
  have kept : ∀ line ∈ written, dropReturn line = id line := fun line listed => if_neg (each line listed).2
  rw [lines, parts, List.getLast?_concat, List.dropLast_concat, List.map_congr_left kept]
  simp

end ObservableGen.Text
