import Mathlib.Data.List.Infix
import ObservableGen.Localization
set_option autoImplicit false

/-!
The texts of a localization by its entries. Main statement: an entry gives a text exactly if its key gives a name that
no earlier key gives.
-/
namespace ObservableGen.Localization

-- The text of an entry, if its key gives a name and no entry in front of it gives the same one.
def textBehind? (front : Json.Entries) (entry : String × String) : Option LocalizedText :=
  (Naming.propertyOfKey entry.1).bind fun name =>
    if ∃ earlier ∈ front, Naming.propertyOfKey earlier.1 = some name then none else some ⟨name, entry.2⟩

def firstTexts (entries : Json.Entries) : List LocalizedText :=
  (entries.inits.zip entries).filterMap fun placed => textBehind? placed.1 placed.2

theorem text_behind_unnamed (first entry : String × String) (front : Json.Entries)
    (unnamed : Naming.propertyOfKey first.1 = none) : textBehind? (first :: front) entry = textBehind? front entry := by
  simp only [textBehind?, List.exists_mem_cons_iff, unnamed, reduceCtorEq, false_or]

theorem text_behind_named (first entry : String × String) (front : Json.Entries) (name : String)
    (named : Naming.propertyOfKey first.1 = some name) :
    textBehind? (first :: front) entry = (textBehind? front entry).filter fun text => text.name != name := by
  cases own : Naming.propertyOfKey entry.1 with
  | none => simp only [textBehind?, own, Option.bind_none, Option.filter_none]
  | some other =>
      simp only [textBehind?, own, Option.bind_some, List.exists_mem_cons_iff, named, Option.some.injEq]
      by_cases earlier : ∃ earlier ∈ front, Naming.propertyOfKey earlier.1 = some other
      · simp only [earlier, or_true, if_true, Option.filter_none]
      · by_cases same : name = other
        · simp [same, earlier, Option.filter_some]
        · simp [same, earlier, Option.filter_some, Ne.symm same]

-- Behind a first entry the others give what they give alone, except for the name that it has taken.
theorem first_texts_cons (first : String × String) (rest : Json.Entries) : firstTexts (first :: rest) =
    match Naming.propertyOfKey first.1 with
    | none => firstTexts rest
    | some name => ⟨name, first.2⟩ :: (firstTexts rest).filter fun text => text.name != name := by
  have placed : firstTexts (first :: rest) = (textBehind? [] first).toList
      ++ (rest.inits.zip rest).filterMap fun placed => textBehind? (first :: placed.1) placed.2 := by
    rw [firstTexts, List.inits_cons, List.zip_cons_cons, List.filterMap_cons, List.zip_map_left, List.filterMap_map]
    cases textBehind? [] first <;> rfl
  rw [placed]
  cases named : Naming.propertyOfKey first.1 with
  | none =>
      simp only [text_behind_unnamed first _ _ named]
      simp [textBehind?, named, firstTexts]
  | some name =>
      simp only [text_behind_named first _ _ name named, ← List.filter_filterMap]
      simp [textBehind?, named, firstTexts]

theorem texts_from_first (resource : String) (seen : List String) (entries : Json.Entries) :
    (textsFrom resource seen entries).value = (firstTexts entries).filter fun text => !seen.contains text.name := by
  induction entries generalizing seen with
  | nil => rfl
  | cons first rest ih =>
      obtain ⟨key, value⟩ := first
      rw [first_texts_cons, textsFrom]
      cases named : Naming.propertyOfKey key with
      | none => exact ih seen
      | some name =>
          dsimp only
          rw [List.filter_cons, List.filter_filter]
          by_cases known : seen.contains name = true
          · have others : ∀ text ∈ firstTexts rest,
                (!seen.contains text.name && text.name != name) = !seen.contains text.name := by
              intro text _
              by_cases same : text.name = name
              · rw [same, known]
                rfl
              · simp [same]
            simp only [known, if_true, Reported.value_after, ih, Bool.not_true, Bool.false_eq_true, if_false]
            exact (List.filter_congr others).symm
          · simp only [known, Bool.false_eq_true, if_false, Reported.value_map, ih, Bool.not_false, if_true]
            congr 1
            apply List.filter_congr
            intro text _
            by_cases same : text.name = name <;> simp [same]

theorem texts_first (localization : Localization) : localization.texts.value = firstTexts localization.entries := by
  rw [texts, texts_from_first, List.filter_eq_self]
  simp

theorem first_texts_nodup (entries : Json.Entries) : ((firstTexts entries).map LocalizedText.name).Nodup := by
  induction entries with
  | nil => simp [firstTexts]
  | cons first rest ih =>
      rw [first_texts_cons]
      cases Naming.propertyOfKey first.1 with
      | none => exact ih
      | some name =>
          have others := ih.sublist ((List.filter_sublist (p := fun text => text.name != name)).map LocalizedText.name)
          exact List.nodup_cons.mpr ⟨by simp, others⟩

end ObservableGen.Localization
