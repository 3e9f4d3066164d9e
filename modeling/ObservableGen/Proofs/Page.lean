import ObservableGen.Proofs.Strokes
import ObservableGen.Text.Segment
set_option autoImplicit false

/-!
What calls on a writer leave behind, in whatever order and however deep they are nested. Main statement: the text is
the rows of a page, joined by line feeds; a row is indented by the level that was in force at its first text, whatever
came later, and a row without texts is empty.
-/
namespace ObservableGen.Source

-- A text and the level that is in force where it is written.
structure Entry where
  level : Nat
  text : String

namespace Row

def text (row : List Entry) : String :=
  match row.find? (·.text ≠ "") with
  | none => ""
  | some first => Writer.indentation first.level ++ "".intercalate (row.map Entry.text)

def isBare (row : List Entry) : Bool := row.all (·.text = "")

theorem text_behind_blank (entry : Entry) (rest : List Entry) (blank : entry.text = "") :
    text (entry :: rest) = text rest := by
  have joined : "".intercalate ("" :: rest.map Entry.text) = "".intercalate (rest.map Entry.text) := by
    cases rest <;> simp
  simp [text, blank, joined]

theorem text_filled (entry : Entry) (rest : List Entry) (filled : entry.text ≠ "") : text (entry :: rest)
    = Writer.indentation entry.level ++ "".intercalate (entry.text :: rest.map Entry.text) := by
  simp [text, filled]

theorem text_concat_blank (row : List Entry) (entry : Entry) (blank : entry.text = "") :
    text (row ++ [entry]) = text row := by
  induction row with
  | nil => exact text_behind_blank entry [] blank
  | cons first rest ih =>
      by_cases bare : first.text = ""
      · rw [List.cons_append, text_behind_blank _ _ bare, text_behind_blank _ _ bare, ih]
      · have joined := Text.intercalate_concat "" (first.text :: rest.map Entry.text) (List.cons_ne_nil _ _) ""
        rw [String.append_empty, String.append_empty] at joined
        rw [List.cons_append, text_filled _ _ bare, text_filled _ _ bare, ← joined]
        simp [blank]

theorem text_concat (row : List Entry) (entry : Entry) (filled : entry.text ≠ "") : text (row ++ [entry])
    = text row ++ ((if isBare row then Writer.indentation entry.level else "") ++ entry.text) := by
  induction row with
  | nil =>
      rw [List.nil_append, text_filled _ _ filled]
      simp [text, isBare]
  | cons first rest ih =>
      by_cases bare : first.text = ""
      · rw [List.cons_append, text_behind_blank _ _ bare, text_behind_blank _ _ bare, ih]
        simp [isBare, bare]
      · have joined := Text.intercalate_concat "" (first.text :: rest.map Entry.text) (List.cons_ne_nil _ _) entry.text
        rw [String.append_empty] at joined
        rw [List.cons_append, text_filled _ _ bare, text_filled _ _ bare, String.append_assoc]
        simp [isBare, bare, ← joined]

theorem bare_concat (row : List Entry) (entry : Entry) :
    isBare (row ++ [entry]) = (isBare row && decide (entry.text = "")) := by
  simp [isBare]

theorem text_whole (row : List Entry) (whole : ∀ entry ∈ row, '\n' ∉ entry.text.toList) :
    '\n' ∉ (text row).toList := by
  have texts : ∀ text ∈ row.map Entry.text, text.toList.all (· != '\n') = true := by
    intro text listed
    obtain ⟨entry, own, rfl⟩ := List.mem_map.mp listed
    rw [List.all_eq_true]
    intro c inside
    exact bne_iff_ne.mpr fun feed => whole entry own (feed ▸ inside)
  have joined := List.all_eq_true.mp (Text.intercalate_all (· != '\n') "" _ rfl texts)
  unfold text
  split
  · exact List.not_mem_nil
  · rw [String.toList_append, List.mem_append, not_or]
    exact ⟨by simp [Writer.indentation], fun inside => by simpa using joined '\n' inside⟩

end Row

-- Rows of entries. Nothing is indented on a page; the level only marks the entries.
structure Page where
  ended : List (List Entry)
  current : List Entry
  level : Nat

namespace Page

def empty : Page := ⟨[], [], 0⟩

def rows (page : Page) : List (List Entry) := page.ended ++ [page.current]

def text (page : Page) : String := "\n".intercalate (page.rows.map Row.text)

def stroke (page : Page) : Stroke → Page
  | .text extra text => { page with current := page.current ++ [⟨page.level + extra, text⟩] }
  | .feed => { page with ended := page.rows, current := [] }
  | .deeper => { page with level := page.level + 1 }
  | .shallower => { page with level := page.level - 1 }

-- The writer that the page is written with knows of the current row only whether it has a text.
def writer (page : Page) : Writer := ⟨page.text, page.level, Row.isBare page.current⟩

theorem texts_ne_nil (page : Page) : page.rows.map Row.text ≠ [] := by
  simp [rows]

theorem text_written (page : Page) (extra : Nat) (text : String) :
    page.writer.stroke (.text extra text) = (page.stroke (.text extra text)).writer := by
  by_cases blank : text = ""
  · subst blank
    have row := Row.text_concat_blank page.current ⟨page.level + extra, ""⟩ rfl
    simp [Writer.stroke, Writer.write, stroke, writer, Page.text, rows, Row.bare_concat, row]
  · have row := Row.text_concat page.current ⟨page.level + extra, text⟩ blank
    simp [Writer.stroke, Writer.write, stroke, writer, Page.text, rows, Row.bare_concat, row, blank,
      Text.intercalate_lengthened, String.append_assoc]

theorem feed_written (page : Page) : page.writer.stroke .feed = (page.stroke .feed).writer := by
  have joined := Text.intercalate_concat "\n" (page.rows.map Row.text) page.texts_ne_nil ""
  rw [String.append_empty] at joined
  have next : (page.stroke .feed).text = page.text ++ "\n" := by
    simpa [text, stroke, rows, Row.text] using joined
  rw [writer, writer, next]
  rfl

theorem stroke_written (page : Page) (stroke : Stroke) :
    page.writer.stroke stroke = (page.stroke stroke).writer := by
  cases stroke with
  | text extra text => exact text_written page extra text
  | feed => exact feed_written page
  | deeper => rfl
  | shallower => rfl

theorem strokes_written (strokes : List Stroke) (page : Page) :
    strokes.foldl Writer.stroke page.writer = (strokes.foldl stroke page).writer := by
  induction strokes generalizing page with
  | nil => rfl
  | cons first rest ih => rw [List.foldl_cons, List.foldl_cons, stroke_written, ih]

-- Each text stands on the page once, in the order in which they came.
theorem texts_on_page (strokes : List Stroke) (page : Page) :
    (strokes.foldl stroke page).rows.flatten.map Entry.text
      = page.rows.flatten.map Entry.text ++ strokes.filterMap Stroke.text? := by
  induction strokes generalizing page with
  | nil => simp
  | cons first rest ih =>
      rw [List.foldl_cons, ih]
      cases first <;> simp [stroke, rows, List.filterMap_cons, Stroke.text?]

-- Where no text holds a line feed, those of the page's text are the ends of its rows.
theorem text_segments (page : Page) (clean : ∀ text ∈ page.rows.flatten.map Entry.text, '\n' ∉ text.toList) :
    page.text.toList.splitOn '\n' = (page.rows.map Row.text).map String.toList := by
  apply Text.split_intercalate '\n' "\n" rfl _ page.texts_ne_nil
  intro text listed
  obtain ⟨row, own, rfl⟩ := List.mem_map.mp listed
  apply Row.text_whole
  intro entry inside
  exact clean entry.text (List.mem_map_of_mem (List.mem_flatten_of_mem own inside))

end Page

theorem Instruction.all_written (instructions : List Instruction) :
    runAll instructions Writer.empty = ((allStrokes instructions).foldl Page.stroke Page.empty).writer := by
  rw [run_all_strokes]
  exact Page.strokes_written (allStrokes instructions) Page.empty

theorem instructions_written (instructions : List Instruction) :
    let strokes := Instruction.allStrokes instructions
    let balance := Stroke.balance strokes
    let written := Instruction.runAll instructions Writer.empty
    let page := strokes.foldl Page.stroke Page.empty
    let lines := page.rows.map Row.text
    (written.text = "\n".intercalate lines ∧ written.level = page.level ∧ written.fresh = Row.isBare page.current) ∧
    page.rows.flatten.map Entry.text = strokes.filterMap Stroke.text? ∧
    ((∀ text ∈ strokes.filterMap Stroke.text?, '\n' ∉ text.toList) →
      written.text.toList.splitOn '\n' = lines.map String.toList) ∧
    ∀ writer : Writer,
      (Instruction.runAll instructions writer).level = writer.level - balance.dedents + balance.indents ∧
      (∀ extra text, (writer.writeLineAt extra text).level = writer.level) ∧
      ∀ head, let block := writer.block head (Instruction.runAll instructions)
        block.level = writer.level + 1 - balance.dedents + balance.indents - 1 ∧
          (Stroke.Matched strokes → block.level = writer.level) := by
  intro strokes balance written page lines
  have whole : written = page.writer := Instruction.all_written instructions
  have texts : page.rows.flatten.map Entry.text = strokes.filterMap Stroke.text? :=
    Page.texts_on_page strokes Page.empty
  refine ⟨?_, texts, ?_, ?_⟩
  · rw [whole]
    exact ⟨rfl, rfl, rfl⟩
  · intro clean
    rw [whole]
    exact page.text_segments (texts ▸ clean)
  · intro writer
    refine ⟨Instruction.level_all instructions writer, fun extra text => writer.level_write_line_at extra text, ?_⟩
    intro head
    exact ⟨Instruction.level_block writer head instructions, Instruction.level_matched_block writer head instructions⟩

-- The label stands a level further out than the body around it, whose brace then stands a level too deep; the indent in
-- the middle of the first line shows from the next line on, and an empty text shows nowhere.
theorem outdented_label_written :
    let instructions : List Instruction := [.write "int", .indent, .write "", .writeLineAt 2 " x;", .write "", .indent,
      .writeLineAt 1 "deep", .blankLine, .block "do" [.dedent, .write "skip:", .indent, .indent, .writeLine ""],
      .dedent, .dedent, .dedent]
    let lines := ["int x;", "            deep", "", "        do", "        \x7b", "        skip:", "            \x7d", ""]
    let strokes := Instruction.allStrokes instructions
    let written := Instruction.runAll instructions Writer.empty
    written.text = "\n".intercalate lines ∧ written.level = 0 ∧
      (∀ text ∈ strokes.filterMap Stroke.text?, '\n' ∉ text.toList) ∧
      written.text.toList.splitOn '\n' = lines.map String.toList ∧
      Stroke.Matched strokes ∧
      ∀ (writer : Writer) (head : String), (writer.block head (Instruction.runAll instructions)).level = writer.level := by
  intro instructions lines strokes written
  obtain ⟨⟨text, level, _⟩, _, physical, around⟩ := instructions_written instructions
  have rows : (strokes.foldl Page.stroke Page.empty).rows.map Row.text = lines := by decide +kernel
  have clean : ∀ text ∈ strokes.filterMap Stroke.text?, '\n' ∉ text.toList := by decide +kernel
  have matched : Stroke.Matched strokes := by decide +kernel
  have physically := physical clean
  rw [rows] at text physically
  exact ⟨text, level, clean, physically, matched, fun writer head => ((around writer).2.2 head).2 matched⟩

end ObservableGen.Source
