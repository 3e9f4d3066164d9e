import ObservableGen.Proofs.Layout
import ObservableGen.Source.PropertyWriter
set_option autoImplicit false

/-!
Members written step by step. Main statement: whatever branches a property takes, what its steps write are its
lines; each brace that they open they close again, so the writer's level is what it was.
-/
namespace ObservableGen.Source

-- Behind any lines, what is written are these lines, at the writer's own level.
def Writes (write : Writer → Writer) (lines : List Line) : Prop :=
  ∀ (writer : Writer) (front : List Line), write (writer.behind front) = writer.behind (front ++ lines)

namespace Writer

theorem behind_nothing (writer : Writer) (fresh : writer.fresh = true) : writer.behind [] = writer := by
  cases writer
  cases fresh
  simp [behind, rendered]

theorem line_behind (writer : Writer) (front : List Line) (text : String) :
    (writer.behind front).writeLine text = writer.behind (front ++ [.flat text]) := by
  rw [write_line _ _ rfl, behind_behind]

theorem blank_behind (writer : Writer) (front : List Line) :
    (writer.behind front).blankLine = writer.behind (front ++ [.blank]) := by
  rw [blank_line _ rfl, behind_behind]

theorem lines_behind (writer : Writer) (front lines : List Line) :
    (writer.behind front).writeLines lines = writer.behind (front ++ lines) := by
  rw [write_lines _ _ rfl, behind_behind]

theorem each_behind (writer : Writer) (front : List Line) (line : String → String) (texts : List String) :
    texts.foldl (fun writer text => writer.writeLine (line text)) (writer.behind front)
      = writer.behind (front ++ texts.map fun text => .flat (line text)) := by
  induction texts generalizing front with
  | nil => simp
  | cons text rest ih => simp [line_behind, ih]

-- The level that the body gains is given back behind it; it is above zero there, so nothing is cut off.
theorem braced_behind (write : Writer → Writer) (body : List Line) (writes : Writes write body) (writer : Writer)
    (front : List Line) :
    (write (writer.behind front).openBlock).closeBlock = writer.behind (front ++ Line.braced body) := by
  let inner := (writer.behind (front ++ [.flat "\x7b"])).indent
  have opened : (writer.behind front).openBlock = inner.behind [] := by
    rw [openBlock, line_behind, behind_nothing inner rfl]
  have deeper : rendered writer.level (body.map Line.deeper) = rendered (writer.level + 1) body :=
    rendered_deeper writer.level 1 body
  rw [opened, writes, closeBlock, write_line _ _ rfl]
  simp [inner, behind, indent, dedent, Line.braced, rendered, rendered_append, deeper, String.append_assoc]

end Writer

-- The text stops at the end of a line.
def EndsLine (text : String) : Prop :=
  ∃ front, text = front ++ "\n"

theorem EndsLine.behind (front : String) {back : String} (ends : EndsLine back) : EndsLine (front ++ back) := by
  obtain ⟨line, rfl⟩ := ends
  exact ⟨front ++ line, (String.append_assoc ..).symm⟩

theorem rendered_ends (level : Nat) (lines : List Line) (some : lines ≠ []) : EndsLine (rendered level lines) := by
  induction lines with
  | nil => exact absurd rfl some
  | cons line rest ih =>
      cases rest with
      | nil =>
          by_cases blank : line.text = ""
          · exact ⟨"", by simp [rendered, Line.written, blank]⟩
          · exact ⟨Writer.indentation (level + line.level) ++ line.text, by simp [rendered, Line.written, blank]⟩
      | cons next rest => exact (ih (List.cons_ne_nil next rest)).behind (line.written level)

namespace PropertySource

theorem writes_callback (nullable : NullableMode) (property : Property) :
    Writes (writeCallback nullable property) (callbackLines nullable property) := by
  intro writer front
  cases callback : property.callback with
  | none => simp [writeCallback, callbackLines, callback]
  | some callback =>
      simp [writeCallback, callbackLines, callback, Writer.line_behind, Writer.blank_behind]

theorem writes_backing (property : Property) : Writes (writeBacking property) (backingLines property) := by
  intro writer front
  cases backed : property.isMethodBacked <;> simp [writeBacking, backingLines, backed, Writer.line_behind]

theorem writes_lead (property : Property) : Writes (writeLead property) (leadLines property) := by
  intro writer front
  rw [writeLead, Writer.each_behind, Writer.each_behind, leadLines, List.append_assoc]

theorem writes_kept (property : Property) : Writes (writeKept property) (keptLines property) := by
  intro writer front
  cases used : property.usesManager <;> simp [writeKept, keptLines, used, Writer.line_behind]

theorem writes_manager (property : Property) : Writes (writeManager property) (managerLines property) := by
  intro writer front
  cases used : property.usesManager <;> simp [writeManager, managerLines, used, Writer.line_behind]

theorem writes_change (source : PropertySource) : Writes source.writeChange source.changeLines := by
  intro writer front
  have moved := writes_manager source.property writer front
  simp only [writeChange, moved, changeLines, raiseCall?]
  -- One name and several names are raised by different calls.
  cases source.raised.map NotificationArgument.text with
  | nil => simp
  | cons first rest => cases rest <;> simp [Writer.line_behind, String.append_assoc]

theorem writes_effects (source : PropertySource) : Writes source.writeEffects
    (keptLines source.property ++ .flat ("if (" ++ source.setCall ++ ")") :: Line.braced source.changeLines) := by
  intro writer front
  rw [writeEffects, writes_kept, Writer.line_behind, Writer.braced_behind _ _ source.writes_change]
  simp

theorem writes_setter (source : PropertySource) : Writes source.writeSetter source.setterLines := by
  intro writer front
  cases effects : source.property.hasSetEffects with
  | true =>
      simp only [writeSetter, setterLines, effects, if_true]
      rw [Writer.line_behind, Writer.braced_behind _ _ source.writes_effects, List.append_assoc,
        List.singleton_append]
  | false => simp [writeSetter, setterLines, effects, Writer.line_behind]

theorem writes_accessors (source : PropertySource) :
    Writes source.writeAccessors (getterLine source.property :: source.setterLines) := by
  intro writer front
  rw [writeAccessors, Writer.line_behind, source.writes_setter]
  simp [getterLine, Line.flat]

theorem writes_factory (property : Property) : Writes (writeFactory property) (factoryLines property) := by
  intro writer front
  cases command : property.command with
  | none => simp [writeFactory, factoryLines, command]
  | some command => simp [writeFactory, factoryLines, command, Writer.line_behind, Writer.blank_behind]

theorem writes_property (nullable : NullableMode) (source : PropertySource) :
    Writes (source.write nullable) (source.lines nullable) := by
  intro writer front
  rw [write, writes_callback, writes_backing, writes_lead, Writer.line_behind,
    Writer.braced_behind _ _ source.writes_accessors, writes_factory, lines]
  simp only [List.append_assoc]

theorem lines_ne_nil (nullable : NullableMode) (source : PropertySource) : source.lines nullable ≠ [] := by
  simp [lines]

end PropertySource

theorem writes_scaffold (nullable : String) :
    Writes (fun writer => writer.writeRelative (Template.substitute Validation.template nullable))
      (Validation.lines nullable) :=
  fun writer front => Writer.lines_behind writer front (Validation.lines nullable)

-- No place for a mark holds a line feed.
theorem feed_filled (mark chars : List Char) (feed : '\n' ∈ chars) : '\n' ∈ Template.fill mark chars := by
  fun_induction Template.fill mark chars with
  | case1 rest ih => exact List.mem_append_right mark (ih (by simpa using feed))
  | case2 c rest plain ih =>
      rcases List.mem_cons.mp feed with rfl | later
      · exact List.mem_cons_self
      · exact List.mem_cons_of_mem c (ih later)
  | case3 => exact feed

theorem feed_joined (first next : String) (rest : List String) :
    '\n' ∈ ("\n".intercalate (first :: next :: rest)).toList := by
  simp

theorem lines_of_text (text : List Char) (some : text ≠ []) : Text.lines text ≠ [] := by
  cases text with
  | nil => exact absurd rfl some
  | cons c rest =>
      cases behind : rest.splitOn '\n' with
      | nil => exact absurd behind (List.splitOn_ne_nil _ rest)
      | cons first others =>
          by_cases feed : c = '\n' <;> cases others <;> simp [Text.lines, List.splitOn_cons_eq_if_modifyHead, behind, feed]

theorem scaffold_ne_nil (nullable : String) : Validation.lines nullable ≠ [] := by
  have filled := feed_filled nullable.toList Validation.template.toList (feed_joined _ _ _)
  have some := lines_of_text _ (List.ne_nil_of_mem filled)
  simpa [Validation.lines, Template.lines, Template.substitute] using some

end ObservableGen.Source

namespace ObservableGen.LocalizedText

open Source

theorem writes_text (text : LocalizedText) : Writes text.write text.lines := by
  intro writer front
  simp [write, lines, Writer.line_behind]

end ObservableGen.LocalizedText
