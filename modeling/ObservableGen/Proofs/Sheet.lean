import ObservableGen.Proofs.Plan
import ObservableGen.Proofs.Writing
import ObservableGen.Source.Sheet
set_option autoImplicit false

/-!
Units written member by member, with one writer for all. Main statement: between members the writer stands
at the start of a line, as deep as declarations are open; the text is the preamble, the members with a blank
line between any two, each as it is written alone, and the braces that close what was opened.
-/
namespace ObservableGen.Source

namespace Request

def kept (seen : List String) : Json.Entries → Json.Entries
  | [] => []
  | (key, value) :: rest =>
    match Naming.propertyOfKey key with
    | none => kept seen rest
    | some name =>
      if seen.contains name then kept seen rest else (key, value) :: kept (name :: seen) rest

-- A request for each member: a localization is split into its entries.
def singles : Request → List Request
  | property nullable shared asked => [property nullable shared asked]
  | localization asked => (kept [] asked.entries).map fun entry => localization ⟨asked.resource, [entry]⟩
  | validation nullable => [validation nullable]

def groups : Request → List (List Line)
  | property nullable shared asked => [(shared.cache.settle asked).1.lines nullable]
  | localization asked => asked.texts.value.map LocalizedText.lines
  | validation nullable => [Validation.lines nullable]

def lines (request : Request) : List Line :=
  separated request.groups

def Marked (nullable : NullableMode) : Request → Prop
  | property asked _ _ => asked = nullable
  | localization _ => True
  | validation asked => asked = nullable.mark

theorem kept_named (seen : List String) (entries : Json.Entries) (entry : String × String)
    (listed : entry ∈ kept seen entries) : ∃ name, Naming.propertyOfKey entry.1 = some name := by
  fun_induction kept seen entries with
  | case1 => cases listed
  | case2 seen key value rest blank ih => exact ih listed
  | case3 seen key value rest name named known ih => exact ih listed
  | case4 seen key value rest name named unknown ih =>
      rcases List.mem_cons.mp listed with rfl | later
      · exact ⟨name, named⟩
      · exact ih later

-- An entry on its own is not a repetition.
theorem entry_groups (resource : String) (entry : String × String) (name : String)
    (named : Naming.propertyOfKey entry.1 = some name) :
    (localization ⟨resource, [entry]⟩).groups = [LocalizedText.lines ⟨name, entry.2⟩] := by
  simp [groups, Localization.texts, Localization.textsFrom, named]

theorem entry_lines (resource : String) (entry : String × String) (name : String)
    (named : Naming.propertyOfKey entry.1 = some name) :
    (localization ⟨resource, [entry]⟩).lines = LocalizedText.lines ⟨name, entry.2⟩ := by
  rw [lines, entry_groups resource entry name named, separated]

theorem kept_lines (resource : String) (seen : List String) (entries : Json.Entries) :
    (kept seen entries).map (fun entry => (localization ⟨resource, [entry]⟩).lines)
      = (Localization.textsFrom resource seen entries).value.map LocalizedText.lines := by
  fun_induction kept seen entries with
  | case1 => rfl
  | case2 seen key value rest blank ih => simp [Localization.textsFrom, blank, ih]
  | case3 seen key value rest name named known ih =>
      simp only [Localization.textsFrom, named, known, if_true, Reported.value_after, ih]
  | case4 seen key value rest name named unknown ih =>
      simp only [Localization.textsFrom, named, if_neg unknown, Reported.value_map, List.map_cons, ih,
        entry_lines resource (key, value) name named]

theorem singles_lines (request : Request) : request.singles.map lines = request.groups := by
  cases request with
  | property nullable shared asked => rfl
  | localization asked =>
      rw [singles, List.map_map]
      exact kept_lines asked.resource [] asked.entries
  | validation nullable => rfl

theorem single_group (request single : Request) (listed : single ∈ request.singles) :
    single.groups = [single.lines] := by
  cases request with
  | property nullable shared asked =>
      cases List.mem_singleton.mp listed
      rfl
  | localization asked =>
      obtain ⟨entry, kept, rfl⟩ := List.mem_map.mp listed
      obtain ⟨name, named⟩ := kept_named [] asked.entries entry kept
      rw [entry_groups _ _ name named, entry_lines _ _ name named]
  | validation nullable =>
      cases List.mem_singleton.mp listed
      rfl

theorem group_ne_nil (request : Request) (group : List Line) (listed : group ∈ request.groups) : group ≠ [] := by
  cases request with
  | property nullable shared asked =>
      rw [List.mem_singleton.mp listed]
      exact PropertySource.lines_ne_nil nullable _
  | localization asked =>
      obtain ⟨text, -, rfl⟩ := List.mem_map.mp listed
      exact List.cons_ne_nil _ _
  | validation nullable =>
      rw [List.mem_singleton.mp listed]
      exact scaffold_ne_nil nullable

end Request

namespace Sheet

def preamble (header : UnitHeader) (type : DeclaredType) : String :=
  rendered 0 (header.lines ++ openings (TypeUnit.scopes type))

-- The sheet of a type behind members with these lines.
def laidOut (header : UnitHeader) (type : DeclaredType) (groups : List (List Line)) : Sheet :=
  let depth := (TypeUnit.scopes type).length
  ⟨type.hint, Writer.behind ⟨preamble header type, depth, true⟩ (separated groups), depth, groups.length⟩

theorem open_scopes (scopes : List String) (sheet : Sheet) :
    scopes.foldl openScope sheet =
      { sheet with
        writer := scopes.foldl (fun writer scope => (writer.writeLine scope).openBlock) sheet.writer
        scopes := sheet.scopes + scopes.length } := by
  induction scopes generalizing sheet with
  | nil => rfl
  | cons scope rest ih =>
      rw [List.foldl_cons, ih]
      simp only [openScope, List.foldl_cons, List.length_cons]
      congr 1
      omega

theorem start_laid_out (header : UnitHeader) (type : DeclaredType) :
    start header type = laidOut header type [] := by
  have headed : Writer.empty.writeHeader header = Writer.empty.behind header.lines :=
    Writer.write_lines _ _ rfl
  rw [start, open_scopes, headed, TypeUnit.open_scopes _ _ rfl]
  simp [laidOut, preamble, separated, Writer.behind, Writer.empty, rendered, rendered_append]

theorem separated_concat (groups : List (List Line)) (group : List Line) (some : groups ≠ []) :
    separated (groups ++ [group]) = separated groups ++ .blank :: group := by
  induction groups with
  | nil => exact absurd rfl some
  | cons first rest ih =>
      cases rest with
      | nil => rfl
      | cons next rest => simpa [separated] using ih (List.cons_ne_nil next rest)

-- A member is one more group, whatever is written in it.
theorem member_laid_out (header : UnitHeader) (type : DeclaredType) (groups : List (List Line))
    (write : Writer → Writer) (lines : List Line) (writes : Writes write lines) :
    (laidOut header type groups).member write = laidOut header type (groups ++ [lines]) := by
  cases groups with
  | nil => simp [member, laidOut, separated, writes _ _]
  | cons first rest =>
      have more := separated_concat (first :: rest) lines (List.cons_ne_nil first rest)
      rw [laidOut, laidOut, more, member]
      simp [Writer.blank_behind, writes _ _]

theorem texts_laid_out (header : UnitHeader) (type : DeclaredType) (groups : List (List Line))
    (resource : String) (seen : List String) (entries : Json.Entries) :
    (emitNamed seen (laidOut header type groups) entries).2 = laidOut header type
      (groups ++ (Localization.textsFrom resource seen entries).value.map LocalizedText.lines) := by
  induction entries generalizing seen groups with
  | nil => simp [emitNamed, Localization.textsFrom, Reported.silent]
  | cons entry rest ih =>
      obtain ⟨key, value⟩ := entry
      cases named : Naming.propertyOfKey key with
      | none => simp [emitNamed, Localization.textsFrom, named, ih]
      | some name =>
          have written := member_laid_out header type groups _ _ (LocalizedText.writes_text ⟨name, value⟩)
          by_cases known : seen.contains name = true
          · simp only [emitNamed, Localization.textsFrom, named, known, if_true, ih, Reported.value_after]
          · simp only [emitNamed, Localization.textsFrom, named, if_neg known, written, ih, Reported.value_map,
              List.map_cons, List.append_assoc, List.singleton_append]

theorem take_laid_out (header : UnitHeader) (type : DeclaredType) (groups : List (List Line)) (request : Request) :
    (laidOut header type groups).take request = laidOut header type (groups ++ request.groups) := by
  cases request with
  | property nullable shared property =>
      exact member_laid_out header type groups _ _
        (PropertySource.writes_property nullable (shared.cache.settle property).1)
  | localization asked => exact texts_laid_out header type groups asked.resource [] asked.entries
  | validation nullable =>
      rw [take, emitValidation, member_laid_out _ _ _ _ _ (writes_scaffold nullable), Request.groups]

theorem takes_laid_out (header : UnitHeader) (type : DeclaredType) (groups : List (List Line))
    (requests : List Request) : requests.foldl take (laidOut header type groups)
      = laidOut header type (groups ++ requests.flatMap Request.groups) := by
  induction requests generalizing groups with
  | nil => simp
  | cons request rest ih => simp [take_laid_out, ih]

theorem composed_laid_out (header : UnitHeader) (type : DeclaredType) (requests : List Request) :
    composed header type requests = laidOut header type (requests.flatMap Request.groups) := by
  rw [composed, start_laid_out, takes_laid_out, List.nil_append]

theorem rendered_separated (level : Nat) (groups : List (List Line)) :
    rendered level (separated groups) = "\n".intercalate (groups.map (rendered level)) := by
  fun_induction separated groups with
  | case1 => rfl
  | case2 group => rfl
  | case3 group next rest ih =>
      simp [rendered_append, rendered, Line.written, Line.blank, ih, String.append_assoc]

-- The levels that were opened are given back one by one, down to none.
theorem closed_laid_out (header : UnitHeader) (type : DeclaredType) (groups : List (List Line)) :
    (laidOut header type groups).closed =
      ⟨(laidOut header type groups).writer.text ++ rendered 0 (closings (TypeUnit.scopes type).length), 0, true⟩ :=
  TypeUnit.close_scopes _ 0 _ rfl (Nat.zero_add _).symm

theorem text_laid_out (header : UnitHeader) (type : DeclaredType) (groups : List (List Line)) :
    (laidOut header type groups).writer.text = preamble header type
      ++ "\n".intercalate (groups.map (rendered (TypeUnit.scopes type).length)) :=
  congrArg (preamble header type ++ ·) (rendered_separated _ groups)

theorem laid_out_ends (header : UnitHeader) (type : DeclaredType) (groups : List (List Line)) :
    EndsLine (laidOut header type groups).writer.text := by
  have opening : EndsLine (preamble header type) := rendered_ends 0 _ (by simp [UnitHeader.lines])
  by_cases empty : separated groups = []
  · rw [laidOut, empty]
    simpa [Writer.behind, rendered] using opening
  · exact (rendered_ends _ _ empty).behind (preamble header type)

end Sheet

namespace TypeUnit

def take (unit : TypeUnit) : Request → TypeUnit
  | .property _ shared property => (unit.addProperty shared property).1
  | .localization localization => (unit.addLocalization localization).value
  | .validation _ => unit.addValidation

theorem take_groups (unit : TypeUnit) (request : Request) (marked : request.Marked unit.header.nullable) :
    (unit.take request).header = unit.header ∧ (unit.take request).type = unit.type ∧
      (unit.take request).blocks.map (Block.lines unit.header.nullable)
        = unit.blocks.map (Block.lines unit.header.nullable) ++ request.groups := by
  cases request with
  | property nullable shared property =>
      cases marked
      exact ⟨rfl, rfl, List.map_append⟩
  | localization asked =>
      rw [take, Pass.add_localization_value]
      refine ⟨rfl, rfl, ?_⟩
      simp [Request.groups, Block.lines, Function.comp_def]
  | validation nullable =>
      cases marked
      exact ⟨rfl, rfl, List.map_append⟩

theorem takes_groups (unit : TypeUnit) (requests : List Request)
    (marked : ∀ request ∈ requests, request.Marked unit.header.nullable) :
    (requests.foldl take unit).header = unit.header ∧ (requests.foldl take unit).type = unit.type ∧
      (requests.foldl take unit).blocks.map (Block.lines unit.header.nullable)
        = unit.blocks.map (Block.lines unit.header.nullable) ++ requests.flatMap Request.groups := by
  induction requests generalizing unit with
  | nil => simp
  | cons request rest ih =>
      obtain ⟨own, others⟩ := List.forall_mem_cons.mp marked
      obtain ⟨header, type, groups⟩ := take_groups unit request own
      obtain ⟨header', type', groups'⟩ := ih (unit.take request) (by rwa [header])
      rw [header] at header' groups'
      rw [List.foldl_cons, List.flatMap_cons, ← List.append_assoc, ← groups]
      exact ⟨header', type'.trans type, groups'⟩

end TypeUnit

namespace Sheet

theorem finish_laid_out (unit : TypeUnit) :
    (laidOut unit.header unit.type (unit.blocks.map (Block.lines unit.header.nullable))).finish? = unit.finish? := by
  rw [TypeUnit.finish_source, finish?, closed_laid_out]
  cases blocks : unit.blocks with
  | nil => simp [laidOut]
  | cons block rest =>
      simp [laidOut, TypeUnit.source, TypeUnit.hint, TypeUnit.lines, nested, preamble, blocks, Writer.behind,
        rendered_append, rendered_deeper, String.append_assoc]

theorem composed_unit (header : UnitHeader) (type : DeclaredType) (requests : List Request)
    (marked : ∀ request ∈ requests, request.Marked header.nullable) :
    (composed header type requests).finish?
      = (requests.foldl TypeUnit.take (TypeUnit.start header type)).finish? := by
  obtain ⟨header', type', groups⟩ := TypeUnit.takes_groups (TypeUnit.start header type) requests marked
  have finished := finish_laid_out (requests.foldl TypeUnit.take (TypeUnit.start header type))
  rw [header', type'] at finished
  rw [composed_laid_out, ← finished]
  exact congrArg (fun groups => (laidOut header type groups).finish?) groups.symm

theorem unit_layout (header : UnitHeader) (type : DeclaredType) (requests : List Request) :
    let sheet := composed header type requests
    let depth := (TypeUnit.scopes type).length
    let singles := requests.flatMap Request.singles
    let written := preamble header type ++ "\n".intercalate (singles.map fun single => rendered depth single.lines)
    let unit : SourceUnit := ⟨type.hint, written ++ rendered 0 (closings depth)⟩
    TypeUnit.scopes type = (type.space?.map fun space => "namespace " ++ space).toList
      ++ (type.heads.map fun head => "partial " ++ head.text) ∧
    sheet.scopes = depth ∧ sheet.members = singles.length ∧
      (sheet.writer = ⟨written, sheet.scopes, true⟩ ∧ EndsLine written) ∧
      (sheet.closed = ⟨unit.text, 0, true⟩ ∧ (sheet.finish? = none ↔ sheet.members = 0) ∧
        (sheet.members ≠ 0 → sheet.finish? = some unit)) ∧
      (∀ single ∈ singles, EndsLine (rendered depth single.lines) ∧ composed header type [single]
        = ⟨type.hint, ⟨preamble header type ++ rendered depth single.lines, depth, true⟩, depth, 1⟩) ∧
      ((∀ request ∈ requests, request.Marked header.nullable) →
        sheet.finish? = (requests.foldl TypeUnit.take (TypeUnit.start header type)).finish?) := by
  intro sheet depth singles written unit
  have grouped : requests.flatMap Request.groups = singles.map Request.lines := by
    simp [singles, List.map_flatMap, Request.singles_lines]
  have laid : sheet = laidOut header type (singles.map Request.lines) := by
    rw [← grouped]
    exact composed_laid_out header type requests
  have text : sheet.writer.text = written := by
    rw [laid, text_laid_out, List.map_map]
    rfl
  have writer : sheet.writer = ⟨written, sheet.scopes, true⟩ := by
    rw [← text, laid]
    rfl
  have closed : sheet.closed = ⟨unit.text, 0, true⟩ := by
    rw [laid, closed_laid_out, ← laid, text]
  have hint : sheet.hint = type.hint := congrArg Sheet.hint laid
  have run := composed_unit header type requests
  refine ⟨rfl, congrArg scopes laid, ?_, ⟨writer, ?_⟩, ⟨closed, ?_, fun begun => ?_⟩, ?_, run⟩
  · rw [laid]
    exact List.length_map _
  · rw [← text, laid]
    exact laid_out_ends header type _
  · by_cases begun : sheet.members = 0 <;> simp [finish?, begun]
  · rw [finish?, if_neg begun, closed, hint]
  · intro single listed
    obtain ⟨request, -, split⟩ := List.mem_flatMap.mp listed
    have alone := Request.single_group request single split
    refine ⟨rendered_ends depth _ (Request.group_ne_nil single _ (by simp [alone])), ?_⟩
    rw [composed_laid_out, List.flatMap_singleton, alone]
    rfl

end Sheet

end ObservableGen.Source
