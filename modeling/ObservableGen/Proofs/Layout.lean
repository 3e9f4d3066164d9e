import ObservableGen.Output
set_option autoImplicit false

/-!
The text of generated units as lines. Main statements: whatever a writer is asked to write stands in
its text as lines at a level, and a unit's text is its header, then its nested declarations.
-/
namespace ObservableGen.Source

def Line.written (level : Nat) (line : Line) : String :=
  if line.text = "" then "\n" else Writer.indentation (level + line.level) ++ line.text ++ "\n"

def rendered (level : Nat) : List Line → String
  | [] => ""
  | line :: rest => line.written level ++ rendered level rest

theorem rendered_append (level : Nat) (front back : List Line) :
    rendered level (front ++ back) = rendered level front ++ rendered level back := by
  induction front with
  | nil => simp [rendered]
  | cons line rest ih => simp [rendered, ih, String.append_assoc]

def Line.deeperBy (count : Nat) (line : Line) : Line := ⟨line.level + count, line.text⟩

theorem rendered_deeper (level count : Nat) (lines : List Line) :
    rendered level (lines.map (Line.deeperBy count)) = rendered (level + count) lines := by
  induction lines with
  | nil => rfl
  | cons line rest ih =>
      have sum : level + (line.level + count) = level + count + line.level := by omega
      simp only [List.map_cons, rendered, ih, Line.written, Line.deeperBy, sum]

-- The lines that open declarations inside one another, and those that close as many.
def openings : List String → List Line
  | [] => []
  | scope :: rest => .flat scope :: .flat "\x7b" :: (openings rest).map (Line.deeperBy 1)

def closings : Nat → List Line
  | 0 => []
  | count + 1 => ⟨count, "\x7d"⟩ :: closings count

def nested (scopes : List String) (body : List Line) : List Line :=
  openings scopes ++ body.map (Line.deeperBy scopes.length) ++ closings scopes.length

def separated : List (List Line) → List Line
  | [] => []
  | [group] => group
  | group :: next :: rest => group ++ .blank :: separated (next :: rest)

namespace Writer

-- The writer behind lines written at its level, which it keeps.
def behind (writer : Writer) (lines : List Line) : Writer :=
  ⟨writer.text ++ rendered writer.level lines, writer.level, true⟩

theorem behind_behind (writer : Writer) (front back : List Line) :
    (writer.behind front).behind back = writer.behind (front ++ back) := by
  simp [behind, rendered_append, String.append_assoc]

theorem write_line_at (writer : Writer) (line : Line) (fresh : writer.fresh = true) :
    writer.writeLineAt line.level line.text = writer.behind [line] := by
  by_cases empty : line.text = ""
  · simp [writeLineAt, writeLine, write, blankLine, behind, rendered, Line.written, empty]
  · simp [writeLineAt, writeLine, write, blankLine, behind, rendered, Line.written, empty, fresh,
      String.append_assoc]

theorem write_lines (writer : Writer) (lines : List Line) (fresh : writer.fresh = true) :
    writer.writeLines lines = writer.behind lines := by
  induction lines generalizing writer with
  | nil =>
      cases writer
      cases fresh
      simp [writeLines, behind, rendered]
  | cons line rest ih =>
      have first := write_line_at writer line fresh
      have others := ih (writer.behind [line]) rfl
      rw [writeLines, List.foldl_cons, first]
      rw [writeLines] at others
      rw [others, behind_behind, List.singleton_append]

theorem write_line (writer : Writer) (text : String) (fresh : writer.fresh = true) :
    writer.writeLine text = writer.behind [.flat text] :=
  write_line_at writer (.flat text) fresh

theorem blank_line (writer : Writer) (fresh : writer.fresh = true) :
    writer.blankLine = writer.behind [.blank] := by
  simpa [writeLine, write, Line.blank, Line.flat] using write_line writer "" fresh

end Writer

namespace TypeUnit

theorem open_scopes (scopes : List String) (writer : Writer) (fresh : writer.fresh = true) :
    scopes.foldl (fun writer scope => (writer.writeLine scope).openBlock) writer
      = ⟨writer.text ++ rendered writer.level (openings scopes), writer.level + scopes.length, true⟩ := by
  induction scopes generalizing writer with
  | nil =>
      cases writer
      cases fresh
      simp [openings, rendered]
  | cons scope rest ih =>
      have opened : (writer.writeLine scope).openBlock
          = (writer.behind [.flat scope, .flat "\x7b"]).indent := by
        rw [Writer.openBlock, Writer.write_line writer scope fresh, Writer.write_line _ _ rfl,
          Writer.behind_behind]
        rfl
      rw [List.foldl_cons, opened, ih _ rfl]
      have sum : writer.level + 1 + rest.length = writer.level + (rest.length + 1) := by omega
      simp [Writer.behind, Writer.indent, openings, rendered, rendered_deeper, String.append_assoc, sum]

theorem close_scopes (count level : Nat) (writer : Writer) (fresh : writer.fresh = true)
    (deep : writer.level = level + count) :
    close count writer = ⟨writer.text ++ rendered level (closings count), level, true⟩ := by
  induction count generalizing writer with
  | zero =>
      cases writer
      cases fresh
      simp_all [close, closings, rendered]
  | succ count ih =>
      have closed : writer.closeBlock
          = ⟨writer.text ++ rendered level [⟨count, "\x7d"⟩], level + count, true⟩ := by
        rw [Writer.closeBlock, Writer.write_line writer.dedent _ fresh]
        simp [Writer.behind, Writer.dedent, deep, rendered, Line.written, Line.flat]
      rw [close, closed, ih _ rfl rfl]
      simp [closings, rendered, String.append_assoc]

-- What is opened in front of the body is closed behind it.
theorem close_opened (scopes : List String) (writer : Writer) (body : List Line)
    (fresh : writer.fresh = true) :
    close scopes.length ((scopes.foldl (fun writer scope => (writer.writeLine scope).openBlock)
      writer).writeLines body) = writer.behind (nested scopes body) := by
  rw [open_scopes scopes writer fresh, Writer.write_lines _ _ rfl, close_scopes _ writer.level _ rfl rfl]
  simp [Writer.behind, nested, rendered_append, rendered_deeper, String.append_assoc]

theorem write_blocks (nullable : NullableMode) (writer : Writer) (blocks : List Block)
    (fresh : writer.fresh = true) :
    writeBlocks nullable writer blocks
      = writer.writeLines (separated (blocks.map (Block.lines nullable))) := by
  induction blocks generalizing writer with
  | nil => rfl
  | cons block rest ih =>
      cases rest with
      | nil => rfl
      | cons next rest =>
          have front := Writer.write_lines writer (block.lines nullable) fresh
          rw [writeBlocks, front, Writer.blank_line _ rfl, ih _ rfl, Writer.write_lines _ _ rfl,
            Writer.write_lines _ _ fresh, Writer.behind_behind, Writer.behind_behind]
          simp [separated]

def lines (unit : TypeUnit) : List Line :=
  unit.header.lines ++
    nested (scopes unit.type) (separated (unit.blocks.map (Block.lines unit.header.nullable)))

def source (unit : TypeUnit) : SourceUnit :=
  ⟨unit.hint, rendered 0 unit.lines⟩

theorem written_text (unit : TypeUnit) :
    (close (scopes unit.type).length unit.written).text = rendered 0 unit.lines := by
  have headed : Writer.empty.writeHeader unit.header = Writer.empty.behind unit.header.lines :=
    Writer.write_lines _ _ rfl
  have start : unit.opened.fresh = true := by
    rw [opened, headed, open_scopes _ _ rfl]
  rw [written, write_blocks _ _ _ start, opened, headed, close_opened _ _ _ rfl,
    Writer.behind_behind]
  simp [Writer.behind, Writer.empty, lines]

theorem finish_source (unit : TypeUnit) :
    unit.finish? = if unit.blocks = [] then none else some unit.source := by
  rw [finish?, written_text]
  cases unit.blocks <;> simp [source]

end TypeUnit

theorem namespace_unit_source (header : UnitHeader) (hint space : String) (body : List Line) :
    namespaceUnit header hint space body
      = ⟨hint, rendered 0 (header.lines ++ nested ["namespace " ++ space] body)⟩ := by
  have headed : Writer.empty.writeHeader header = Writer.empty.behind header.lines :=
    Writer.write_lines _ _ rfl
  have closed := TypeUnit.close_opened ["namespace " ++ space] (Writer.empty.behind header.lines) body rfl
  rw [Writer.behind_behind] at closed
  have text := congrArg Writer.text closed
  rw [namespaceUnit, Writer.block, headed]
  simpa [TypeUnit.close, Writer.behind, Writer.empty] using text

namespace Token

-- The field that holds what notifies of the token's name.
def field (token : Token) : String := token.ident ++ "PropertyChanged"

def access (token : Token) : String := "global::Minimal.Mvvm.EventArgsCache." ++ token.field

def declared (token : Token) : String :=
  "internal static readonly global::System.ComponentModel.PropertyChangedEventArgs " ++ token.field
    ++ " = new global::System.ComponentModel.PropertyChangedEventArgs(" ++ Literal.quote token.name ++ ");"

theorem declaration_text (token : Token) : TokenCache.declaration token = token.declared := by
  have lead : "internal static readonly " ++ TokenCache.argumentsType ++ " "
      = "internal static readonly global::System.ComponentModel.PropertyChangedEventArgs " := by
    rw [TokenCache.argumentsType]
    rfl
  have made : " = new " ++ TokenCache.argumentsType ++ "("
      = " = new global::System.ComponentModel.PropertyChangedEventArgs(" := by
    rw [TokenCache.argumentsType]
    rfl
  unfold TokenCache.declaration TokenCache.fieldName declared field
  rw [lead, ← made]
  simp only [String.append_assoc]

theorem reference_text (token : Token) : TokenCache.reference token.ident = token.access := by
  have front : TypeName.globalAlias ++ TokenCache.space ++ "." ++ TokenCache.className ++ "."
      = "global::Minimal.Mvvm.EventArgsCache." := by
    rw [TypeName.globalAlias, TokenCache.space, TokenCache.className]
    rfl
  unfold TokenCache.reference TokenCache.fieldName access field
  rw [front]

end Token

-- The unit that declares these tokens, a field for each.
def tokenFile? (header : UnitHeader) (tokens : List Token) : Option SourceUnit :=
  if tokens = [] then none
  else some ⟨"EventArgsCache.g.cs", rendered 0 (header.lines ++
    nested ["namespace Minimal.Mvvm", "internal static partial class EventArgsCache"]
      (tokens.map fun token => .flat token.declared))⟩

theorem token_file (cache : TokenCache) (header : UnitHeader) :
    cache.unit? header = tokenFile? header cache.tokens := by
  cases listed : cache.tokens with
  | nil => simp [TokenCache.unit?, tokenFile?, listed]
  | cons token rest =>
      simp [TokenCache.unit?, tokenFile?, listed, namespace_unit_source, nested, openings, closings, Line.braced,
        Line.deeper, Line.deeperBy, Line.flat, Function.comp_def, Token.declaration_text, TokenCache.className,
        TokenCache.space]

end ObservableGen.Source
