import ObservableGen.Proofs.Quotation
set_option autoImplicit false

/-!
Texts in documentation comments. Main statement: what is done to each character is what nine replacements in the whole
text come to, one after the other; the text is then free of markup and stays on its line, and a reader of markup gets
back the text that was given, with its line terminators spelled out.
-/
namespace ObservableGen.Source.Doc

open Literal (endsLine replaced)

-- A text to look for, which is never empty, and what is put in its place.
structure Replacement where
  first : Char
  further : List Char
  spelling : List Char

namespace Replacement

def single (entry : Char × String) : Replacement := ⟨entry.1, [], entry.2.toList⟩

-- The text is looked for from the left, and behind each place where it is found.
def apply (step : Replacement) (text : List Char) : List Char :=
  match text with
  | [] => []
  | c :: rest =>
      if c = step.first ∧ step.further <+: rest then
        step.spelling ++ step.apply (rest.drop step.further.length)
      else c :: step.apply rest
termination_by text.length
decreasing_by
  · simp only [List.length_drop, List.length_cons]
    omega
  · exact Nat.lt_succ_self _

end Replacement

def markup : List (Char × String) := [('&', "&amp;"), ('<', "&lt;"), ('>', "&gt;")]

def lineEnds : List (Char × String) := [('\r', "\\r"), ('\n', "\\n")] ++ Literal.spellings

def pair : Replacement := ⟨'\r', ['\n'], "\\r\\n".toList⟩

def steps : List Replacement := markup.map .single ++ pair :: lineEnds.map .single

-- One replacement after the other, each in the whole text that the last one left.
def rewritten (text : List Char) : List Char :=
  steps.foldl (fun text step => step.apply text) text

def replacedEach (entries : List (Char × String)) (text : List Char) : List Char :=
  entries.foldl (fun text entry => replaced entry.1 entry.2.toList text) text

theorem apply_single (entry : Char × String) (text : List Char) :
    (Replacement.single entry).apply text = replaced entry.1 entry.2.toList text := by
  induction text with
  | nil => simp [Replacement.apply, replaced]
  | cons c rest ih =>
      rw [Replacement.apply, replaced, List.flatMap_cons, ← replaced]
      by_cases found : c = entry.1
      · simpa [Replacement.single, found] using ih
      · simpa [Replacement.single, found] using ih

theorem apply_singles (entries : List (Char × String)) (text : List Char) :
    (entries.map Replacement.single).foldl (fun text step => step.apply text) text = replacedEach entries text := by
  rw [List.foldl_map, replacedEach]
  simp only [apply_single]

-- Single characters are replaced one by one, and what stands for one is never looked at beside its neighbours.
theorem replaced_each_flat (entries : List (Char × String)) (text : List Char) :
    replacedEach entries text = text.flatMap fun c => replacedEach entries [c] := by
  induction entries generalizing text with
  | nil => simp [replacedEach]
  | cons entry rest ih =>
      have first (text : List Char) : replacedEach (entry :: rest) text
          = replacedEach rest (replaced entry.1 entry.2.toList text) := rfl
      simp only [first]
      rw [ih, replaced, List.flatMap_assoc]
      congr 1
      funext c
      rw [ih (replaced entry.1 entry.2.toList [c]), replaced, List.flatMap_singleton]

theorem replaced_each_append (entries : List (Char × String)) (left right : List Char) :
    replacedEach entries (left ++ right) = replacedEach entries left ++ replacedEach entries right := by
  rw [replaced_each_flat, List.flatMap_append, ← replaced_each_flat, ← replaced_each_flat]

theorem replaced_each_absent (entries : List (Char × String)) (c : Char) (other : c ∉ entries.map Prod.fst) :
    replacedEach entries [c] = [c] := by
  induction entries with
  | nil => rfl
  | cons entry rest ih =>
      rw [List.map_cons, List.mem_cons, not_or] at other
      have kept : replaced entry.1 entry.2.toList [c] = [c] := by simp [replaced, other.1]
      rw [replacedEach, List.foldl_cons, kept]
      exact ih other.2

-- What the pair is replaced by is what its two characters are replaced by.
theorem pair_replaced (text : List Char) : replacedEach lineEnds (pair.apply text) = replacedEach lineEnds text := by
  have spelled : replacedEach lineEnds pair.spelling = replacedEach lineEnds ['\r', '\n'] := by decide
  fun_induction pair.apply text with
  | case1 => rfl
  | case2 c rest found ih =>
      obtain ⟨rfl, behind, rfl⟩ := found
      have places : pair.first :: (pair.further ++ behind) = ['\r', '\n'] ++ behind := rfl
      rw [List.drop_left] at ih ⊢
      rw [places, replaced_each_append, replaced_each_append, ih, spelled]
  | case3 c rest other ih =>
      have front (rest : List Char) : c :: rest = [c] ++ rest := rfl
      rw [front, replaced_each_append, ih, ← replaced_each_append, ← front]

theorem rewritten_flat (text : List Char) :
    rewritten text = text.flatMap fun c => replacedEach (markup ++ lineEnds) [c] := by
  have split : rewritten text = replacedEach lineEnds (pair.apply (replacedEach markup text)) := by
    rw [rewritten, steps, List.foldl_append, List.foldl_cons, apply_singles, apply_singles]
  have joined (text : List Char) : replacedEach lineEnds (replacedEach markup text)
      = replacedEach (markup ++ lineEnds) text := List.foldl_append.symm
  rw [split, pair_replaced, joined, replaced_each_flat]

-- What a character is spelled as in a text that is read back.
def spelling (c : Char) : List Char :=
  ((lineEnds.lookup c).map String.toList).getD [c]

def spelled (text : List Char) : List Char := text.flatMap spelling

def isMarkup (c : Char) : Bool := c == '&' || c == '<' || c == '>'

-- A reader of markup takes each of three entities for a character, and refuses any other markup.
def decode? : List Char → Option (List Char)
  | '&' :: 'a' :: 'm' :: 'p' :: ';' :: rest => (decode? rest).map ('&' :: ·)
  | '&' :: 'l' :: 't' :: ';' :: rest => (decode? rest).map ('<' :: ·)
  | '&' :: 'g' :: 't' :: ';' :: rest => (decode? rest).map ('>' :: ·)
  | c :: rest => if isMarkup c then none else (decode? rest).map (c :: ·)
  | [] => some []

def entities : List String := ["amp;", "lt;", "gt;"]

theorem plain_other (c : Char) (other : c ∉ (markup ++ lineEnds).map Prod.fst) :
    escape c = [c] ∧ spelling c = [c] ∧ isMarkup c = false ∧ endsLine c = false := by
  simp only [markup, lineEnds, Literal.spellings, List.cons_append, List.nil_append, List.map_cons, List.map_nil,
    List.mem_cons, List.not_mem_nil, or_false, not_or] at other
  obtain ⟨and, less, greater, carriage, feed, first, second, third⟩ := other
  have wide : isWideTerminator c = false := by simp [isWideTerminator, first, second, third]
  refine ⟨?_, ?_, ?_, ?_⟩
  · simp [escape, wide]
  · simp [spelling, lineEnds, Literal.spellings, List.lookup_cons, beq_false_of_ne, carriage, feed, first, second, third]
  · simp [isMarkup, and, less, greater]
  · simp [endsLine, carriage, feed, wide]

theorem escape_replaced (c : Char) : replacedEach (markup ++ lineEnds) [c] = escape c := by
  by_cases special : c ∈ (markup ++ lineEnds).map Prod.fst
  · have each : ((markup ++ lineEnds).map Prod.fst).all
        (fun c => replacedEach (markup ++ lineEnds) [c] == escape c) = true := by decide
    exact beq_iff_eq.mp (List.all_eq_true.mp each c special)
  · rw [replaced_each_absent _ c special, (plain_other c special).1]

-- All characters but those of markup stand for their spelling, which has no markup and does not end the line.
theorem escape_cases (c : Char) : c = '&' ∨ c = '<' ∨ c = '>' ∨
    escape c = spelling c ∧ ∀ d ∈ spelling c, isMarkup d = false ∧ endsLine d = false := by
  by_cases special : c ∈ (markup ++ lineEnds).map Prod.fst
  · rw [List.map_append, List.mem_append] at special
    rcases special with marked | ended
    · have marked : c = '&' ∨ c = '<' ∨ c = '>' := by simpa [markup] using marked
      exact marked.imp_right (Or.imp_right Or.inl)
    · have each : (lineEnds.map Prod.fst).all (fun c => escape c == spelling c &&
          (spelling c).all fun d => !isMarkup d && !endsLine d) = true := by decide
      exact .inr (.inr (.inr (by simpa using List.all_eq_true.mp each c ended)))
  · obtain ⟨kept, same, unmarked, inside⟩ := plain_other c special
    refine .inr (.inr (.inr ⟨kept.trans same.symm, fun d listed => ?_⟩))
    rw [same, List.mem_singleton] at listed
    subst listed
    exact ⟨unmarked, inside⟩

theorem escape_on_line (c : Char) : ∀ d ∈ escape c, endsLine d = false := by
  obtain rfl | rfl | rfl | ⟨spelt, plain⟩ := escape_cases c
  · simpa using (by decide : (escape '&').any endsLine = false)
  · simpa using (by decide : (escape '<').any endsLine = false)
  · simpa using (by decide : (escape '>').any endsLine = false)
  · rw [spelt]
    exact fun d inside => (plain d inside).2

theorem decode_plain (text rest : List Char) (plain : ∀ c ∈ text, isMarkup c = false) :
    decode? (text ++ rest) = (decode? rest).map (text ++ ·) := by
  induction text with
  | nil => simp
  | cons c behind ih =>
      obtain ⟨first, others⟩ := List.forall_mem_cons.mp plain
      have single : decode? (c :: (behind ++ rest)) = (decode? (behind ++ rest)).map (c :: ·) := by
        rw [decode?]
        · simp [first]
        all_goals
          rintro _ rfl _
          cases first
      rw [List.cons_append, single, ih others, Option.map_map]
      rfl

-- Whatever follows, what stands for a character is read as that character or its spelling.
theorem decode_escape (c : Char) (rest : List Char) :
    decode? (escape c ++ rest) = (decode? rest).map (spelling c ++ ·) := by
  obtain rfl | rfl | rfl | ⟨spelt, plain⟩ := escape_cases c
  · rfl
  · rfl
  · rfl
  · rw [spelt]
    exact decode_plain _ rest fun d inside => (plain d inside).1

theorem decode_escaped (text : List Char) : decode? (text.flatMap escape) = some (spelled text) := by
  induction text with
  | nil => rfl
  | cons c rest ih =>
      rw [List.flatMap_cons, decode_escape, ih]
      rfl

-- No markup but the entities.
structure OnlyEntities (text : List Char) : Prop where
  bare : ∀ c ∈ text, c ≠ '<' ∧ c ≠ '>'
  marked : ∀ rest, '&' :: rest <:+ text → ∃ entity ∈ entities, entity.toList <+: rest

theorem suffix_behind (front behind rest : List Char) (unmarked : '&' ∉ front)
    (place : '&' :: rest <:+ front ++ behind) : '&' :: rest <:+ behind := by
  induction front with
  | nil => exact place
  | cons c others ih =>
      rw [List.mem_cons, not_or] at unmarked
      rw [List.cons_append, List.suffix_cons_iff] at place
      rcases place with here | later
      · exact absurd (List.cons.inj here).1 unmarked.1
      · exact ih unmarked.2 later

theorem OnlyEntities.behind_plain (front behind : List Char) (plain : ∀ c ∈ front, isMarkup c = false)
    (only : OnlyEntities behind) : OnlyEntities (front ++ behind) := by
  have others (c : Char) (inside : c ∈ front) : c ≠ '&' ∧ c ≠ '<' ∧ c ≠ '>' := by
    simpa [isMarkup, and_assoc] using plain c inside
  constructor
  case bare => exact List.forall_mem_append.mpr ⟨fun c inside => (others c inside).2, only.bare⟩
  case marked =>
    intro rest place
    exact only.marked rest (suffix_behind front behind rest (fun inside => (others _ inside).1 rfl) place)

theorem OnlyEntities.behind_entity (entity : String) (behind : List Char) (listed : entity ∈ entities)
    (only : OnlyEntities behind) : OnlyEntities ('&' :: (entity.toList ++ behind)) := by
  have plain : ∀ entity ∈ entities, entity.toList.any isMarkup = false := by decide
  have further := only.behind_plain entity.toList behind (by simpa using plain entity listed)
  constructor
  case bare => exact List.forall_mem_cons.mpr ⟨by decide, further.bare⟩
  case marked =>
    intro rest place
    rcases List.suffix_cons_iff.mp place with here | later
    · rw [(List.cons.inj here).2]
      exact ⟨entity, listed, List.prefix_append _ _⟩
    · exact further.marked rest later

theorem decoded_entities (text read : List Char) (decoded : decode? text = some read) : OnlyEntities text := by
  fun_induction decode? text generalizing read with
  | case1 behind ih =>
      obtain ⟨others, further, _⟩ := Option.map_eq_some_iff.mp decoded
      exact (ih others further).behind_entity "amp;" behind (by decide)
  | case2 behind ih =>
      obtain ⟨others, further, _⟩ := Option.map_eq_some_iff.mp decoded
      exact (ih others further).behind_entity "lt;" behind (by decide)
  | case3 behind ih =>
      obtain ⟨others, further, _⟩ := Option.map_eq_some_iff.mp decoded
      exact (ih others further).behind_entity "gt;" behind (by decide)
  | case4 => cases decoded
  | case5 c rest _ _ _ plain ih =>
      obtain ⟨others, further, _⟩ := Option.map_eq_some_iff.mp decoded
      exact (ih others further).behind_plain [c] rest (by simpa using plain)
  | case6 =>
      constructor
      case bare => simp
      case marked => simp

theorem text_to_list (value : String) : (text value).toList = value.toList.flatMap escape := by
  simp [text]

theorem rewritten_text (value : String) : rewritten value.toList = (text value).toList := by
  rw [rewritten_flat, text_to_list]
  simp only [escape_replaced]

theorem escaped_text_reads (value : String) :
    let escaped := (text value).toList
    escaped = rewritten value.toList ∧
    (∀ further, text (value ++ further) = text value ++ text further ∧
      rewritten (value.toList ++ further.toList) = rewritten value.toList ++ rewritten further.toList) ∧
    (∀ c ∈ escaped, c ≠ '<' ∧ c ≠ '>' ∧ endsLine c = false) ∧
    (∀ rest, '&' :: rest <:+ escaped → ∃ entity ∈ entities, entity.toList <+: rest) ∧
    decode? escaped = some (spelled value.toList) := by
  intro escaped
  have flat : escaped = value.toList.flatMap escape := text_to_list value
  have decoded : decode? escaped = some (spelled value.toList) := by
    rw [flat]
    exact decode_escaped value.toList
  have only := decoded_entities escaped _ decoded
  refine ⟨(rewritten_text value).symm, fun further => ?_, fun c inside => ?_, only.marked, decoded⟩
  · have appended := text_append value further
    refine ⟨appended, ?_⟩
    rw [← String.toList_append, rewritten_text, rewritten_text, rewritten_text, appended, String.toList_append]
  · obtain ⟨less, greater⟩ := only.bare c inside
    rw [flat] at inside
    obtain ⟨d, _, spelt⟩ := List.mem_flatMap.mp inside
    exact ⟨less, greater, escape_on_line d c spelt⟩

-- The pair of line terminators is parted, and an entity that was there before is escaped itself.
theorem parted_text_reads :
    text "a\r" ++ text "\n<&lt;\u2028" = "a\\r\\n&lt;&amp;lt;\\u2028" ∧
      rewritten "a\r\n<&lt;\u2028".toList = "a\\r\\n&lt;&amp;lt;\\u2028".toList ∧
      (∃ entity ∈ entities, entity.toList <+: "lt;&amp;lt;\\u2028".toList) ∧
      decode? "a\\r\\n&lt;&amp;lt;\\u2028".toList = some "a\\r\\n<&lt;\\u2028".toList := by
  have escaped : text "a\r\n<&lt;\u2028" = "a\\r\\n&lt;&amp;lt;\\u2028" := by decide
  obtain ⟨steps, _, _, marked, decoded⟩ := escaped_text_reads "a\r\n<&lt;\u2028"
  obtain ⟨appended, _⟩ := (escaped_text_reads "a\r").2.1 "\n<&lt;\u2028"
  rw [escaped] at steps marked decoded
  refine ⟨appended.symm.trans escaped, steps.symm, marked _ ⟨"a\\r\\n".toList, by decide⟩, decoded.trans ?_⟩
  decide

end ObservableGen.Source.Doc
