import ObservableGen.Proofs.Clash
import ObservableGen.Proofs.Markup
import ObservableGen.Proofs.Sheet
set_option autoImplicit false

/-!
Localized texts as members of a unit. Main statement: each name that keys give is written once, for the first entry
that gives it; and whatever stands in keys and values, a member is four physical lines, three of them comments.
-/
namespace ObservableGen

open Source

namespace Source.Literal

theorem ends_line_cases (c : Char) (ends : endsLine c = true) :
    c = '\r' ∨ c = '\n' ∨ c = '\u0085' ∨ c = '\u2028' ∨ c = '\u2029' := by
  simpa [endsLine, isWideTerminator, or_assoc] using ends

end Source.Literal

namespace Text

-- The small letters that reserved words begin with, and what ends a physical line.
def avoidedRanges : List (Nat × Nat) :=
  [(0xA, 0xA), (0xD, 0xD), (0x61, 0x7A), (0x85, 0x85), (0x2028, 0x2029)]

def avoids (c : Char) : Bool := !inRanges avoidedRanges c.toNat

def CaseRun.misses (run : CaseRun) (range : Nat × Nat) : Bool :=
  Nat.blt (run.last + run.shift).toNat range.1 || Nat.blt range.2 (run.first + run.shift).toNat

theorem upper_runs_miss : (upperRuns.all fun run => avoidedRanges.all run.misses) = true := by
  decide +kernel

theorem upper_expansions_miss : ∀ entry ∈ upperExpansions, entry.2 ≠ [] ∧
    ∀ code ∈ entry.2, inRanges avoidedRanges code = false := by
  decide +kernel

theorem ascii_upper_avoids : ∀ code < 128, isAlphabetic (Char.ofNat code) = true →
    avoids (Char.ofNat code).toUpper = true := by
  decide +kernel

theorem wide_letters_avoid : ∀ code ∈ [0x85, 0x2028, 0x2029], inRanges alphabeticRanges code = false := by
  decide +kernel

-- What is no character stands for the null character.
theorem of_nat_avoids (code : Nat) (outside : inRanges avoidedRanges code = false) :
    avoids (Char.ofNat code) = true := by
  by_cases valid : code.isValidChar
  · rw [avoids, to_nat_of_valid code valid, outside]
    rfl
  · rw [show Char.ofNat code = '\x00' from dif_neg valid]
    decide

theorem upper_run_avoids (run : CaseRun) (code : Nat) (listed : run ∈ upperRuns)
    (covered : run.covers code = true) : avoids (Char.ofNat (code + run.shift).toNat) = true := by
  apply of_nat_avoids
  rw [inRanges, List.any_eq_false]
  intro range avoided inside
  have missed := List.all_eq_true.mp (List.all_eq_true.mp upper_runs_miss run listed) range avoided
  simp only [CaseRun.misses, Bool.or_eq_true, Nat.blt_eq] at missed
  simp only [CaseRun.covers, Bool.and_eq_true, decide_eq_true_eq] at covered inside
  omega

theorem wide_letter_avoids (c : Char) (letter : isAlphabetic c = true) (wide : ¬ c.toNat < 128) :
    avoids c = true := by
  rw [isAlphabetic, if_neg wide] at letter
  rw [avoids, Bool.not_eq_true', Bool.eq_false_iff]
  intro avoided
  have terminator : c.toNat ∈ [0x85, 0x2028, 0x2029] := by
    simp only [inRanges, avoidedRanges, List.any_cons, List.any_nil, Bool.or_false, Bool.or_eq_true,
      Bool.and_eq_true, decide_eq_true_eq] at avoided
    simp only [List.mem_cons, List.not_mem_nil, or_false]
    omega
  rw [wide_letters_avoid _ terminator] at letter
  cases letter

-- In upper case, a letter is never one that a reserved word begins with.
theorem upper_case_avoids (c : Char) (letter : isAlphabetic c = true) :
    upperCase c ≠ [] ∧ ∀ d ∈ upperCase c, avoids d = true := by
  by_cases ascii : c.toNat < 128
  · have upper := ascii_upper_avoids c.toNat ascii (by rwa [Char.ofNat_toNat])
    rw [Char.ofNat_toNat] at upper
    simp [upper_case_ascii c ascii, upper]
  · rw [upperCase, if_neg ascii, mapCase]
    cases expanded : upperExpansions.find? fun entry => entry.1 == c.toNat with
    | some entry =>
        obtain ⟨some, missed⟩ := upper_expansions_miss entry (List.mem_of_find?_eq_some expanded)
        refine ⟨by simpa using some, ?_⟩
        intro d inside
        obtain ⟨code, place, rfl⟩ := List.mem_map.mp inside
        exact of_nat_avoids code (missed code place)
    | none =>
        cases found : upperRuns.find? fun run => run.covers c.toNat with
        | some run =>
            have covered : run.covers c.toNat = true := by simpa using List.find?_some found
            simpa using upper_run_avoids run c.toNat (List.mem_of_find?_eq_some found) covered
        | none => simpa using wide_letter_avoids c letter ascii

theorem avoids_ends_line (c : Char) (avoided : avoids c = true) : Literal.endsLine c = false := by
  rw [Bool.eq_false_iff]
  intro ends
  obtain rfl | rfl | rfl | rfl | rfl := Literal.ends_line_cases c ends
  all_goals cases avoided

theorem avoids_small (c : Char) (avoided : avoids c = true) : c.isLower = false := by
  rw [Bool.eq_false_iff]
  intro small
  have bounds : (decide (0x61 ≤ c.val) && decide (c.val ≤ 0x7A)) = true := small
  rw [Bool.and_eq_true, decide_eq_true_eq, decide_eq_true_eq] at bounds
  have inside : 0x61 ≤ c.toNat ∧ c.toNat ≤ 0x7A := bounds
  simp [avoids, inRanges, avoidedRanges, inside] at avoided

end Text

namespace Source

-- Nothing in the text ends a line.
def OnLine (text : String) : Prop := ∀ c ∈ text.toList, Literal.endsLine c = false

instance (text : String) : Decidable (OnLine text) :=
  decidable_of_iff ((text.toList.all fun c => !Literal.endsLine c) = true) (by simp [OnLine])

theorem OnLine.append (front back : String) (first : OnLine front) (second : OnLine back) : OnLine (front ++ back) := by
  rw [OnLine, String.toList_append, List.forall_mem_append]
  exact ⟨first, second⟩

end Source

namespace Naming

theorem property_of_key_none (key : String) : propertyOfKey key = none ↔ Text.trim key.toList = [] := by
  unfold propertyOfKey
  cases Text.trim key.toList <;> simp

theorem key_part_on_line (c : Char) : Literal.endsLine (maskKeyPart c) = false := by
  rw [maskKeyPart]
  by_cases kept : Text.isAlphanumeric c = true
  · rw [if_pos kept, Bool.eq_false_iff]
    intro ends
    obtain rfl | rfl | rfl | rfl | rfl := Literal.ends_line_cases c ends
    all_goals revert kept; decide +kernel
  · rw [if_neg kept]
    decide

-- The name begins with a character in upper case or with `_`, and ends no line.
theorem property_of_key_text (key name : String) (named : propertyOfKey key = some name) :
    OnLine name ∧ ∃ lead rest, name.toList = lead :: rest ∧ lead.isLower = false := by
  unfold propertyOfKey at named
  cases trimmed : Text.trim key.toList with
  | nil => simp [trimmed] at named
  | cons first rest =>
      have parts : ∀ c ∈ rest.map maskKeyPart, Literal.endsLine c = false := by
        intro c inside
        obtain ⟨part, _, rfl⟩ := List.mem_map.mp inside
        exact key_part_on_line part
      simp only [trimmed, Option.some.injEq] at named
      subst named
      rw [OnLine, String.toList_ofList]
      by_cases letter : Text.isAlphabetic first = true
      · obtain ⟨some, avoided⟩ := Text.upper_case_avoids first letter
        rw [if_pos letter]
        cases upper : Text.upperCase first with
        | nil => exact absurd upper some
        | cons lead others =>
            rw [upper] at avoided
            refine ⟨?_, lead, _, rfl, Text.avoids_small lead (avoided lead List.mem_cons_self)⟩
            intro c inside
            rcases List.mem_append.mp inside with front | back
            · exact Text.avoids_ends_line c (avoided c front)
            · exact parts c back
      · rw [if_neg letter]
        refine ⟨?_, '_', _, rfl, by decide⟩
        intro c inside
        rcases List.mem_append.mp inside with front | back
        · rw [List.mem_singleton.mp front]
          decide
        · exact parts c back

end Naming

namespace Source

-- The lines of a text as the language counts them; a carriage return and a line feed behind it end one line.
def physicalLines : List Char → List (List Char)
  | [] => []
  | '\r' :: '\n' :: rest => [] :: physicalLines rest
  | c :: rest =>
    if Literal.endsLine c then [] :: physicalLines rest
    else match physicalLines rest with
      | [] => [[c]]
      | line :: lines => (c :: line) :: lines

theorem physical_lines_part (c : Char) (rest line : List Char) (lines : List (List Char))
    (inside : Literal.endsLine c = false) (behind : physicalLines rest = line :: lines) :
    physicalLines (c :: rest) = (c :: line) :: lines := by
  have other : c ≠ '\r' := by
    rintro rfl
    cases inside
  rw [physicalLines, inside, behind]
  · rfl
  · exact fun _ carriage => absurd carriage other

theorem physical_lines_line (line rest : List Char) (whole : ∀ c ∈ line, Literal.endsLine c = false) :
    physicalLines (line ++ '\n' :: rest) = line :: physicalLines rest := by
  induction line with
  | nil => rfl
  | cons c line ih =>
      obtain ⟨first, others⟩ := List.forall_mem_cons.mp whole
      exact physical_lines_part c _ _ _ first (ih others)

theorem physical_lines_filled (chars : List Char) (some : chars ≠ []) :
    ∃ line lines, physicalLines chars = line :: lines := by
  fun_cases physicalLines chars with
  | case1 => exact absurd rfl some
  | case2 rest => exact ⟨_, _, rfl⟩
  | case3 c rest single ends => exact ⟨_, _, rfl⟩
  | case4 c rest single inside behind => exact ⟨_, _, rfl⟩
  | case5 c rest single inside line lines behind => exact ⟨_, _, rfl⟩

theorem physical_lines_ended (c : Char) (rest : List Char) (ends : Literal.endsLine c = true)
    (single : c = '\r' → rest.head? ≠ some '\n') : physicalLines (c :: rest) = [] :: physicalLines rest := by
  rw [physicalLines, if_pos ends]
  rintro back rfl rfl
  exact single rfl rfl

-- A line feed ends a line, be it alone or behind a carriage return.
theorem physical_lines_split (front back : List Char) :
    physicalLines (front ++ '\n' :: back) = physicalLines (front ++ ['\n']) ++ physicalLines back := by
  induction front with
  | nil => rfl
  | cons c rest ih =>
      have head : (rest ++ '\n' :: back).head? = (rest ++ ['\n']).head? := by simp
      rw [List.cons_append, List.cons_append]
      by_cases ends : Literal.endsLine c = true
      · by_cases pair : c = '\r' ∧ (rest ++ ['\n']).head? = some '\n'
        · obtain ⟨rfl, feed⟩ := pair
          cases rest with
          | nil => rfl
          | cons d rest =>
              have feed : d = '\n' := by simpa using feed
              subst feed
              simpa [physicalLines, physical_lines_ended '\n' _ (by decide)] using ih
        · have single (same : c = '\r') : (rest ++ ['\n']).head? ≠ some '\n' := fun feed => pair ⟨same, feed⟩
          rw [physical_lines_ended c _ ends single, physical_lines_ended c _ ends (head ▸ single), ih]
          rfl
      · have inside : Literal.endsLine c = false := by simpa using ends
        obtain ⟨line, lines, first⟩ := physical_lines_filled (rest ++ ['\n']) (by simp)
        rw [first] at ih
        rw [physical_lines_part c _ _ _ inside ih, physical_lines_part c _ _ _ inside first]
        rfl

theorem physical_lines_behind (front back : String) (ends : EndsLine front) :
    physicalLines (front ++ back).toList = physicalLines front.toList ++ physicalLines back.toList := by
  obtain ⟨text, rfl⟩ := ends
  simpa using physical_lines_split text.toList back.toList

theorem indentation_on_line (level : Nat) : OnLine (Writer.indentation level) := by
  intro c inside
  rw [Writer.indentation, String.toList_ofList] at inside
  rw [List.eq_of_mem_replicate inside]
  decide

-- Lines that are written without terminators of their own are the physical lines.
theorem physical_lines_rendered (level : Nat) (lines : List Line)
    (whole : ∀ line ∈ lines, line.text ≠ "" ∧ OnLine line.text) :
    physicalLines (rendered level lines).toList
      = lines.map fun line => (Writer.indentation (level + line.level) ++ line.text).toList := by
  induction lines with
  | nil => rfl
  | cons line rest ih =>
      obtain ⟨⟨some, own⟩, others⟩ := List.forall_mem_cons.mp whole
      have front := OnLine.append _ _ (indentation_on_line (level + line.level)) own
      have written := physical_lines_line _ (rendered level rest).toList front
      rw [ih others] at written
      rw [List.map_cons, ← written, rendered, Line.written, if_neg some, String.toList_append, String.toList_append]
      simp

theorem escaped_on_line (escape : Char → List Char) (value : String)
    (each : ∀ c d, d ∈ escape c → Literal.endsLine d = false) :
    OnLine (String.ofList (value.toList.flatMap escape)) := by
  intro d inside
  rw [String.toList_ofList] at inside
  obtain ⟨c, _, escaped⟩ := List.mem_flatMap.mp inside
  exact each c d escaped

theorem doc_text_on_line (value : String) : OnLine (Doc.text value) :=
  escaped_on_line Doc.escape value Doc.escape_on_line

theorem quote_on_line (value : String) : OnLine (Literal.quote value) := by
  have mark : OnLine "\"" := by decide
  have body := escaped_on_line Literal.escape value Literal.escape_on_line
  exact (OnLine.append _ _ mark body).append _ _ mark

end Source

namespace LocalizedText

-- Neither the name nor the value ends one of the lines.
theorem lines_on_line (text : LocalizedText) (named : OnLine text.name) :
    ∀ line ∈ text.lines, line.text ≠ "" ∧ OnLine line.text := by
  have summary := (OnLine.append _ _ (by decide : OnLine "/// Looks up a localized string similar to ")
    (doc_text_on_line text.value)).append _ "." (by decide)
  have declared := ((OnLine.append "public static string " _ (by decide) named).append _
    " \x7b get; set; \x7d = " (by decide)).append _ _ (quote_on_line text.value)
  have ended := declared.append _ ";" (by decide)
  simp only [lines, Line.flat, List.forall_mem_cons]
  refine ⟨⟨by decide, by decide⟩, ⟨by simp, summary⟩, ⟨by decide, by decide⟩, ⟨by simp, ended⟩, by simp⟩

end LocalizedText

namespace Source.Sheet

def addTexts (sheet : Sheet) (texts : List LocalizedText) : Sheet :=
  texts.foldl (fun sheet text => sheet.member text.write) sheet

theorem add_texts_members (sheet : Sheet) (texts : List LocalizedText) :
    (sheet.addTexts texts).members = sheet.members + texts.length := by
  induction texts generalizing sheet with
  | nil => rfl
  | cons text rest ih =>
      rw [addTexts, List.foldl_cons, ← addTexts, ih, List.length_cons]
      simp only [member]
      omega

-- One name is taken for each member, and it is none of those taken before.
theorem emit_named_texts (resource : String) (seen : List String) (sheet : Sheet) (entries : Json.Entries) :
    let texts := (Localization.textsFrom resource seen entries).value
    emitNamed seen sheet entries = ((texts.map LocalizedText.name).reverse ++ seen, sheet.addTexts texts) := by
  induction entries generalizing seen sheet with
  | nil => rfl
  | cons entry rest ih =>
      obtain ⟨key, value⟩ := entry
      rw [emitNamed, Localization.textsFrom]
      cases named : Naming.propertyOfKey key with
      | none => exact ih seen sheet
      | some name =>
          by_cases known : seen.contains name = true
          · simp only [known, if_true, Reported.value_after]
            exact ih seen sheet
          · simp only [known, Bool.false_eq_true, if_false, Reported.value_map, ih]
            simp [addTexts]

theorem localize_texts (sheet : Sheet) (localization : Localization) :
    let texts := Localization.firstTexts localization.entries
    sheet.localize localization = (texts.length, sheet.addTexts texts) := by
  have emitted := emit_named_texts localization.resource [] sheet localization.entries
  have first := localization.texts_first
  rw [Localization.texts] at first
  simp only [first] at emitted
  simp [localize, emitted]

end Source.Sheet

namespace Localization

theorem quote_decodes (value : String) :
    Literal.decode? (Literal.quote value).toList = some (Literal.codeUnits value.toList) := by
  have spelled : (Literal.quote value).toList = '"' :: value.toList.flatMap Literal.escape ++ ['"'] := by
    simp [Literal.quote]
  rw [spelled]
  exact Literal.body_escaped value.toList

theorem first_text_named (entries : Json.Entries) (text : LocalizedText) (listed : text ∈ firstTexts entries) :
    ∃ key, Naming.propertyOfKey key = some text.name := by
  obtain ⟨placed, _, given⟩ := List.mem_filterMap.mp listed
  obtain ⟨name, named, chosen⟩ := Option.bind_eq_some_iff.mp given
  split at chosen
  · cases chosen
  · cases chosen
    exact ⟨placed.2.1, named⟩

-- In a unit that holds other members already, each text is a member behind them.
theorem localized_text (localization : Localization) (header : UnitHeader) (type : DeclaredType)
    (requests : List Request) :
    let depth := (TypeUnit.scopes type).length
    let members := (requests.flatMap Request.groups).map (rendered depth)
      ++ (firstTexts localization.entries).map fun text => rendered depth text.lines
    ((Sheet.composed header type requests).emitLocalized localization).writer.text
      = Sheet.preamble header type ++ "\n".intercalate members := by
  intro depth members
  have taken := Sheet.take_laid_out header type (requests.flatMap Request.groups) (.localization localization)
  have groups : (Request.localization localization).groups
      = (firstTexts localization.entries).map LocalizedText.lines := by rw [Request.groups, texts_first]
  rw [← Sheet.composed_laid_out, Sheet.take, groups] at taken
  rw [taken, Sheet.text_laid_out, List.map_append, List.map_map]
  rfl

theorem first_texts_emitted (localization : Localization) :
    let texts := firstTexts localization.entries
    (∀ key, Naming.propertyOfKey key = none ↔ Text.trim key.toList = []) ∧
    (∀ sheet : Sheet, let emitted := sheet.localize localization
      emitted = (texts.length, sheet.addTexts texts) ∧ emitted.2 = sheet.emitLocalized localization ∧
        emitted.2.members = sheet.members + emitted.1) ∧
    (∀ header type requests, let sheet := Sheet.composed header type requests
      let depth := (TypeUnit.scopes type).length
      let earlier := (requests.flatMap Request.groups).map (rendered depth)
      let further := texts.map fun text => rendered depth text.lines
      EndsLine sheet.writer.text ∧
        sheet.writer.text = Sheet.preamble header type ++ "\n".intercalate earlier ∧
        (sheet.localize localization).2.writer.text
          = Sheet.preamble header type ++ "\n".intercalate (earlier ++ further)) ∧
    (∀ unit : TypeUnit, (unit.addLocalization localization).value
      = { unit with blocks := unit.blocks ++ texts.map .localized }) ∧
    (texts.map LocalizedText.name).Nodup ∧
    ∀ text ∈ texts, text.name ≠ "" ∧ Identifier.isKeyword text.name = false ∧
      Literal.decode? (Literal.quote text.value).toList = some (Literal.codeUnits text.value.toList) ∧
      ∀ level front, EndsLine front → let lead := Writer.indentation level
        physicalLines (front ++ rendered level text.lines).toList = physicalLines front.toList ++
          [(lead ++ "/// <summary>").toList,
            (lead ++ ("/// Looks up a localized string similar to " ++ Doc.text text.value ++ ".")).toList,
            (lead ++ "/// </summary>").toList,
            (lead ++ ("public static string " ++ text.name ++ " \x7b get; set; \x7d = "
              ++ Literal.quote text.value ++ ";")).toList] := by
  intro texts
  refine ⟨Naming.property_of_key_none, fun sheet => ?_, fun header type requests => ?_, fun unit => ?_,
    first_texts_nodup localization.entries, ?_⟩
  · have emitted := sheet.localize_texts localization
    refine ⟨emitted, rfl, ?_⟩
    rw [emitted]
    exact Sheet.add_texts_members sheet texts
  · intro sheet depth earlier further
    have laid : sheet = Sheet.laidOut header type (requests.flatMap Request.groups) :=
      Sheet.composed_laid_out header type requests
    refine ⟨?_, ?_, localization.localized_text header type requests⟩
    · rw [laid]
      exact Sheet.laid_out_ends header type _
    · rw [laid, Sheet.text_laid_out]
  · rw [Pass.add_localization_value, texts_first]
  · intro text listed
    obtain ⟨key, named⟩ := first_text_named _ text listed
    obtain ⟨whole, first, rest, chars, small⟩ := Naming.property_of_key_text key text.name named
    have begins : text.name.toList.head? = some first := by rw [chars]; rfl
    refine ⟨?_, Identifier.unreserved_of_lead text.name first begins small, quote_decodes text.value, ?_⟩
    · intro empty
      rw [empty] at begins
      cases begins
    · intro level front ends lead
      rw [physical_lines_behind front _ ends, physical_lines_rendered level text.lines (text.lines_on_line whole)]
      rfl

-- The second key is blank, the third gives the name of the first.
def crowdedEntries : Json.Entries :=
  [(" a b ", "1\n<\u2028\""), ("\t", "2"), ("a-b", "3"), ("ße", "4")]

theorem crowded_entries_emitted :
    ((Sheet.start default default).localize ⟨"en.json", crowdedEntries⟩).1 = 2 ∧
      (firstTexts crowdedEntries).map LocalizedText.name = ["A_b", "SSe"] ∧
      Identifier.isKeyword "SSe" = false ∧
      physicalLines ("\x7b\r\n" ++ rendered 1 (LocalizedText.lines ⟨"A_b", "1\n<\u2028\""⟩)).toList =
        ["\x7b".toList, "    /// <summary>".toList,
          "    /// Looks up a localized string similar to 1\\n&lt;\\u2028\".".toList,
          "    /// </summary>".toList,
          "    public static string A_b \x7b get; set; \x7d = \"1\\n<\\u2028\\\"\";".toList] := by
  obtain ⟨_, sheets, _, _, _, members⟩ := first_texts_emitted ⟨"en.json", crowdedEntries⟩
  have texts : firstTexts crowdedEntries = [⟨"A_b", "1\n<\u2028\""⟩, ⟨"SSe", "4"⟩] := by decide +kernel
  rw [texts] at sheets members
  obtain ⟨_, _, _, written⟩ := members ⟨"A_b", "1\n<\u2028\""⟩ (by simp)
  obtain ⟨_, unreserved, _⟩ := members ⟨"SSe", "4"⟩ (by simp)
  refine ⟨congrArg Prod.fst (sheets _).1, by rw [texts]; rfl, unreserved, ?_⟩
  exact (written 1 "\x7b\r\n" ⟨"\x7b\r", rfl⟩).trans rfl

end Localization

end ObservableGen
