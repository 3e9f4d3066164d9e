set_option autoImplicit false

/-!
Texts cut at separators, and texts with something taken off. The functions on characters carry the
meaning; those on strings wrap them. Main statement: the parts of a text at a mark hold its other
characters, and texts without the mark are read back from the text that it joins them to.
-/
namespace ObservableGen.Text

-- The part after the last separator, or the whole text where there is none.
def lastSegment (separates : Char → Bool) (text : List Char) : List Char :=
  (text.reverse.takeWhile (fun c => !separates c)).reverse

def afterLast (separates : Char → Bool) (text : String) : String :=
  String.ofList (lastSegment separates text.toList)

-- The part before the first separator, or the whole text where there is none.
def beforeFirst (separates : Char → Bool) (text : String) : String :=
  String.ofList (text.toList.takeWhile (fun c => !separates c))

def afterLead? (lead text : String) : Option String :=
  (lead.toList.isPrefixOf? text.toList).map String.ofList

def beforeEnding? (ending text : String) : Option String :=
  (ending.toList.isSuffixOf? text.toList).map String.ofList

theorem split_whole (mark : Char) (text : List Char) : ∀ part ∈ text.splitOn mark, mark ∉ part := by
  induction text with
  | nil => simp
  | cons c rest ih =>
      rw [List.splitOn_cons_eq_if_modifyHead]
      cases found : rest.splitOn mark with
      | nil => exact absurd found (List.splitOn_ne_nil mark rest)
      | cons part parts =>
          rw [found] at ih
          by_cases cut : c = mark
          · simpa [cut] using ih
          · simpa [cut, Ne.symm cut] using ih

theorem mem_split_iff (mark c : Char) (text : List Char) (other : c ≠ mark) :
    (∃ part ∈ text.splitOn mark, c ∈ part) ↔ c ∈ text := by
  induction text with
  | nil => simp
  | cons first rest ih =>
      rw [List.splitOn_cons_eq_if_modifyHead]
      cases found : rest.splitOn mark with
      | nil => exact absurd found (List.splitOn_ne_nil mark rest)
      | cons part parts =>
          rw [found] at ih
          by_cases cut : first = mark
          · simpa [cut, other] using ih
          · simp [cut, ← ih, or_assoc]

theorem intercalate_concat (between : String) (front : List String) (some : front ≠ []) (last : String) :
    between.intercalate (front ++ [last]) = between.intercalate front ++ between ++ last := by
  rw [String.intercalate_append_of_ne_nil some (List.cons_ne_nil _ _), String.intercalate_singleton]

theorem intercalate_lengthened (between : String) (front : List String) (last more : String) :
    between.intercalate (front ++ [last ++ more]) = between.intercalate (front ++ [last]) ++ more := by
  cases front with
  | nil => simp
  | cons text rest =>
      have some := List.cons_ne_nil text rest
      simp only [intercalate_concat between _ some, String.append_assoc]

theorem intercalate_all (holds : Char → Bool) (between : String) (texts : List String)
    (link : between.toList.all holds = true) (each : ∀ text ∈ texts, text.toList.all holds = true) :
    (between.intercalate texts).toList.all holds = true := by
  induction texts with
  | nil => simp
  | cons text rest ih =>
      obtain ⟨first, others⟩ := List.forall_mem_cons.mp each
      cases rest with
      | nil => simpa using first
      | cons next rest =>
          rw [String.intercalate_cons_cons, String.toList_append, String.toList_append, List.all_append,
            List.all_append, first, link, ih others]
          rfl

theorem split_intercalate (mark : Char) (between : String) (single : between.toList = [mark]) (texts : List String)
    (some : texts ≠ []) (unmarked : ∀ text ∈ texts, mark ∉ text.toList) :
    (between.intercalate texts).toList.splitOn mark = texts.map String.toList := by
  rw [String.toList_intercalate, single]
  exact List.splitOn_intercalate mark (List.forall_mem_map.mpr unmarked) (mt List.map_eq_nil_iff.mp some)

end ObservableGen.Text
