import ObservableGen.Proofs.Localized
import ObservableGen.Settings
set_option autoImplicit false

/-!
The banner of generated units. Main statement: every unit opens with it, the declarations of the markers apart; all its
lines are comments, blank or the directive exactly if those are that a line break in the tool's name or version starts,
and settings are accepted that start any line whatever.
-/
namespace ObservableGen

open Source

namespace Source

-- What stands on a line of a unit without being code.
def Inert (nullable : NullableMode) (line : List Char) : Prop :=
  line.all Text.isBlank = true ∨ "//".toList <+: line ∨ nullable.directive.map String.toList = some line

instance (nullable : NullableMode) (line : List Char) : Decidable (Inert nullable line) :=
  inferInstanceAs (Decidable (_ ∨ _ ∨ _))

theorem physical_lines_lead (lead : String) (text line : List Char) (lines : List (List Char)) (whole : OnLine lead)
    (behind : physicalLines text = line :: lines) :
    physicalLines (lead.toList ++ text) = (lead.toList ++ line) :: lines := by
  rw [OnLine] at whole
  generalize lead.toList = chars at whole
  induction chars with
  | nil => exact behind
  | cons c rest ih =>
      obtain ⟨first, others⟩ := List.forall_mem_cons.mp whole
      exact physical_lines_part c _ _ _ first (ih others)

namespace UnitHeader

-- The text that the header is written as.
def top (header : UnitHeader) : String := (Writer.empty.writeHeader header).text

def opening : String := "// <auto-generated>\n"

def credit : String := "//     Auto-generated by "

-- What the settings say of the tool, and what ends its line.
def tool (header : UnitHeader) : String := header.toolName ++ " " ++ header.toolVersion ++ "\n"

def closing (nullable : NullableMode) : String := rendered 0 ((UnitHeader.mk "" "" nullable).lines.drop 2)

theorem top_rendered (header : UnitHeader) : header.top = rendered 0 header.lines := by
  rw [top, Writer.writeHeader, Writer.write_lines _ _ rfl]
  simp [Writer.behind, Writer.empty]

theorem top_ends (header : UnitHeader) : EndsLine header.top := by
  rw [top_rendered]
  exact rendered_ends 0 header.lines (by simp [lines])

theorem top_text (header : UnitHeader) : header.top = opening ++ (credit ++ header.tool ++ closing header.nullable) := by
  have credited : Line.written 0 (.flat (credit ++ header.toolName ++ " " ++ header.toolVersion))
      = credit ++ header.tool := by
    simp [Line.written, Line.flat, Writer.indentation, tool, credit, String.append_assoc]
  rw [top_rendered, ← credited]
  rfl

-- Whatever a unit has behind it, the header breaks into these lines; the first of the tool's stands behind the credit.
theorem physical_lines_top (header : UnitHeader) (further : String) (first : List Char) (others : List (List Char))
    (broken : physicalLines header.tool.toList = first :: others) :
    physicalLines (header.top ++ further).toList = "// <auto-generated>".toList :: (credit.toList ++ first) ::
      (others ++ physicalLines (closing header.nullable ++ further).toList) := by
  have opens : EndsLine opening := ⟨"// <auto-generated>", by decide⟩
  have credits : EndsLine (credit ++ header.tool) := EndsLine.behind credit ⟨_, rfl⟩
  have credited : physicalLines (credit ++ header.tool).toList = (credit.toList ++ first) :: others := by
    rw [String.toList_append]
    exact physical_lines_lead credit _ first others (by decide) broken
  rw [top_text, String.append_assoc, String.append_assoc, physical_lines_behind _ _ opens,
    physical_lines_behind _ _ credits, credited]
  rfl

theorem tool_broken (header : UnitHeader) :
    ∃ first others, physicalLines header.tool.toList = first :: others :=
  physical_lines_filled _ (by simp [tool])

theorem closing_inert (nullable : NullableMode) :
    ∀ line ∈ physicalLines (closing nullable).toList, Inert nullable line := by
  cases nullable <;> decide +kernel

theorem top_inert_iff (header : UnitHeader) :
    (∀ line ∈ physicalLines header.top.toList, Inert header.nullable line) ↔
      ∀ line ∈ (physicalLines header.tool.toList).tail, Inert header.nullable line := by
  obtain ⟨first, others, broken⟩ := header.tool_broken
  have whole := header.physical_lines_top "" first others broken
  rw [String.append_empty, String.append_empty] at whole
  have comment : Inert header.nullable "// <auto-generated>".toList := .inr (.inl (by decide))
  have credited : Inert header.nullable (credit.toList ++ first) := .inr (.inl ⟨_, (List.append_assoc ..).symm⟩)
  rw [whole, broken, List.tail_cons, List.forall_mem_cons, List.forall_mem_cons, List.forall_mem_append]
  constructor
  · exact fun inert => inert.2.2.1
  · exact fun inert => ⟨comment, credited, inert, closing_inert header.nullable⟩

theorem tool_on_line (header : UnitHeader) (name : OnLine header.toolName) (version : OnLine header.toolVersion) :
    (physicalLines header.tool.toList).tail = [] := by
  have whole := (name.append _ " " (by decide)).append _ _ version
  have one := physical_lines_line _ [] whole
  rw [tool, String.toList_append]
  exact congrArg List.tail one

-- What a break in the tool's line starts is a line of every text that the header stands in front of.
theorem broken_off_line (header : UnitHeader) (further : String) (line : List Char)
    (inside : line ∈ (physicalLines header.tool.toList).tail) :
    line ∈ physicalLines (header.top ++ further).toList := by
  obtain ⟨first, others, broken⟩ := header.tool_broken
  rw [broken, List.tail_cons] at inside
  rw [header.physical_lines_top further first others broken]
  simp [inside]

theorem code_broken_off (header : UnitHeader) (version code : String) (whole : OnLine code)
    (broken : header.toolVersion = version ++ "\n" ++ code) :
    code.toList ∈ (physicalLines header.tool.toList).tail := by
  let before := header.toolName ++ " " ++ version ++ "\n"
  have tool : header.tool = before ++ (code ++ "\n") := by
    simp [UnitHeader.tool, before, broken, String.append_assoc]
  have own : physicalLines (code ++ "\n").toList = [code.toList] := by
    rw [String.toList_append]
    exact physical_lines_line _ [] whole
  obtain ⟨first, others, led⟩ := physical_lines_filled before.toList (by simp [before])
  rw [tool, physical_lines_behind before _ ⟨_, rfl⟩, led, own]
  simp

end UnitHeader

end Source

theorem Settings.version_validated (settings : Settings) (accepted : settings.validated = .ok settings) (version : String)
    (some : Text.isBlankText version = false) :
    { settings with version := version }.validated = .ok { settings with version := version } := by
  obtain ⟨name, _, base⟩ := settings.validated_iff.mp accepted
  exact (validated_iff _).mpr ⟨name, some, base⟩

namespace Pass

theorem unit_opens (options : Options) (host : Host) (candidates : List Candidate) (flag : Cancellation)
    (output : Output) (ran : (run options host candidates flag).value.outcome = .ok output) (unit : SourceUnit)
    (inside : unit ∈ output.units) :
    unit ∈ MarkerUnits.all ∨ ∃ further, unit.text = (options.header host).top ++ further := by
  have headed (body : List Line) :
      ∃ further, rendered 0 ((options.header host).lines ++ body) = (options.header host).top ++ further :=
    ⟨rendered 0 body, by rw [rendered_append, UnitHeader.top_rendered]⟩
  rw [run_units options host candidates flag output ran] at inside
  simp only [List.mem_append, Option.mem_toList] at inside
  obtain ((marker | typed) | shared) | manager := inside
  · exact .inl marker
  · right
    obtain ⟨made, listed, rfl⟩ := List.mem_map.mp typed
    obtain ⟨entry, _, settled⟩ := unit_settled _ _ _ _ (written_complete options host _) made listed
    rw [TypeUnit.source, TypeUnit.lines, settled.header_eq]
    exact headed _
  · right
    rw [token_file, tokenFile?] at shared
    split at shared
    · cases shared
    · cases shared
      exact headed _
  · right
    have used := CommandManager.manager_used_of_unit _ _ unit manager
    rw [used, CommandManager.unit?, if_pos rfl] at manager
    cases manager
    rw [namespace_unit_source]
    exact headed _

theorem banner_inert_iff (settings : Settings) (accepted : settings.validated = .ok settings) (host : Host) :
    let header := settings.toOptions.header host
    ((∀ line ∈ physicalLines header.top.toList, Inert host.nullable line) ↔
      ∀ line ∈ (physicalLines (settings.name ++ " " ++ settings.version ++ "\n").toList).tail,
        Inert host.nullable line) ∧
    (OnLine settings.name → OnLine settings.version →
      ∀ line ∈ physicalLines header.top.toList, Inert host.nullable line) ∧
    (∀ candidates flag output, (run settings.toOptions host candidates flag).value.outcome = .ok output →
      ∀ unit ∈ output.units, unit ∈ MarkerUnits.all ∨ ∃ further, unit.text = header.top ++ further ∧
        physicalLines unit.text.toList = physicalLines header.top.toList ++ physicalLines further.toList) ∧
    ∀ code, OnLine code → ∃ other : Settings,
      other = { settings with version := settings.version ++ "\n" ++ code } ∧ other.validated = .ok other ∧
      ∀ candidates flag output, (run other.toOptions host candidates flag).value.outcome = .ok output →
        ∀ unit ∈ output.units, unit ∈ MarkerUnits.all ∨ code.toList ∈ physicalLines unit.text.toList := by
  intro header
  have inert := header.top_inert_iff
  refine ⟨inert, ?_, ?_, ?_⟩
  · intro name version
    apply inert.mpr
    rw [header.tool_on_line name version]
    simp
  · intro candidates flag output ran unit inside
    refine (unit_opens _ host candidates flag output ran unit inside).imp_right ?_
    rintro ⟨further, text⟩
    exact ⟨further, text, text ▸ physical_lines_behind header.top further header.top_ends⟩
  · intro code whole
    obtain ⟨_, version, _⟩ := settings.validated_iff.mp accepted
    have longer : Text.isBlankText (settings.version ++ "\n" ++ code) = false := by
      rw [Text.isBlankText] at version ⊢
      simp only [String.toList_append, List.all_append, version, Bool.false_and]
    refine ⟨_, rfl, settings.version_validated accepted _ longer, ?_⟩
    intro candidates flag output ran unit inside
    refine (unit_opens _ host candidates flag output ran unit inside).imp_right ?_
    rintro ⟨further, text⟩
    rw [text]
    exact UnitHeader.broken_off_line _ further _ (UnitHeader.code_broken_off _ settings.version code whole rfl)

-- A version over two lines, the second of which is a comment itself.
theorem two_comments_open :
    let settings := { Settings.default with version := "1\r\n// build 7" }
    settings.validated = .ok settings ∧
      (∀ line ∈ physicalLines ((settings.toOptions.header sampleHost).top).toList, Inert .disabled line) ∧
      ∃ output, (run settings.toOptions sampleHost sampleCandidates fun _ => false).value.outcome = .ok output ∧
        ∀ unit ∈ output.units, unit ∈ MarkerUnits.all ∨
          "// build 7".toList ∈ physicalLines unit.text.toList := by
  intro settings
  have accepted := Settings.default.version_validated Settings.default_validated "1\r\n// build 7" (by decide)
  have ran := run_completes settings.toOptions sampleHost sampleCandidates (fun _ => false) fun _ _ => rfl
  obtain ⟨inert, _, opens, _⟩ := banner_inert_iff settings accepted sampleHost
  refine ⟨accepted, inert.mpr (by decide +kernel), _, ran, ?_⟩
  intro unit inside
  refine (opens _ _ _ ran unit inside).imp_right ?_
  rintro ⟨further, text, _⟩
  rw [text]
  exact UnitHeader.broken_off_line _ further _ (by decide +kernel)

-- The second line of this version opens every unit as code.
theorem version_opens_with_code :
    let document := "[generator]\nversion = \"1\\nclass Extra;\"\n"
    let settings := { Settings.default with version := "1\nclass Extra;" }
    Settings.read document = .ok settings ∧ settings.validated = .ok settings ∧
      ∀ nullable, ∃ line ∈ physicalLines (UnitHeader.mk settings.name settings.version nullable).top.toList,
        ¬ Inert nullable line := by
  intro document settings
  have accepted := Settings.default.version_validated Settings.default_validated "1\nclass Extra;" (by decide)
  refine ⟨by decide +kernel, accepted, ?_⟩
  intro nullable
  refine ⟨"class Extra;".toList, ?_, ?_⟩
  · have broken : settings.version = "1" ++ "\n" ++ "class Extra;" := by decide
    have line := UnitHeader.broken_off_line ⟨settings.name, _, nullable⟩ "" _
      (UnitHeader.code_broken_off _ "1" "class Extra;" (by decide) broken)
    rwa [String.append_empty] at line
  · cases nullable <;> decide

end Pass

end ObservableGen
