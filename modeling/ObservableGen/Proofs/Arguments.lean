import Mathlib.Logic.Relation
import ObservableGen.NotifyArguments
set_option autoImplicit false

/-!
The arguments of a `[Notify]` attribute, taken one after the other. Main statement: each setting is what the last
argument of its name says, even if that says nothing; so neither their order otherwise, nor an argument that a later
one replaces or that has no meaning, makes a difference.
-/
namespace ObservableGen

def Attribute.lastNamed? (named : List (String × Constant)) (name : String) : Option Constant :=
  (named.reverse.find? fun argument => argument.1 == name).map Prod.snd

namespace Attribute

theorem last_named_append (front back : List (String × Constant)) (name : String) :
    lastNamed? (front ++ back) name = (lastNamed? back name).or (lastNamed? front name) := by
  simp [lastNamed?, List.find?_append, Option.map_or]

theorem last_named_single (argument : String × Constant) (name : String) :
    lastNamed? [argument] name = if argument.1 = name then some argument.2 else none := by
  by_cases same : argument.1 = name <;> simp [lastNamed?, same]

theorem last_named_cons (argument : String × Constant) (rest : List (String × Constant)) (name : String) :
    lastNamed? (argument :: rest) name =
      (lastNamed? rest name).or (if argument.1 = name then some argument.2 else none) := by
  rw [← last_named_single, ← last_named_append, List.singleton_append]

theorem last_named_present (named : List (String × Constant)) (argument : String × Constant)
    (inside : argument ∈ named) : (lastNamed? named argument.1).isSome = true := by
  rw [lastNamed?, Option.isSome_map, List.find?_isSome]
  exact ⟨argument, List.mem_reverse.mpr inside, by simp⟩

end Attribute

namespace Constant

theorem text_iff (value : Constant) (text : String) : value.asText? = some text ↔ value = .text text := by
  cases value <;> simp [asText?]

theorem bool_iff (value : Constant) (flag : Bool) : value.asBool? = some flag ↔ value = .bool flag := by
  cases value <;> simp [asBool?]

end Constant

namespace NotifyArguments

namespace Key

def Content : Key → Type
  | propertyName | callbackName => String
  | preferParameter | useManager => Bool
  | getter | setter => Access

def read? : (key : Key) → Constant → Option key.Content
  | propertyName | callbackName => Constant.asText?
  | preferParameter | useManager => Constant.asBool?
  | getter | setter => access?

-- The one value of an argument that sets this.
def written : (key : Key) → key.Content → Constant
  | propertyName, text | callbackName, text => .text text
  | preferParameter, flag | useManager, flag => .bool flag
  | getter, access | setter, access => .int access.rank

-- What stands in where no argument has the name.
def positional? (values : List Constant) : (key : Key) → Option key.Content
  | propertyName => values.head?.bind Constant.asText?
  | callbackName | preferParameter | getter | setter | useManager => none

theorem of_name_iff (name : String) (key : Key) : ofName? name = some key ↔ name = key.name := by
  constructor
  · intro found
    have same : key.name = name := by simpa using List.find?_some found
    exact same.symm
  · rintro rfl
    exact key_of_own_name key

theorem name_injective (left right : Key) (same : left.name = right.name) : left = right := by
  have found := key_of_own_name left
  rw [same, key_of_own_name] at found
  exact (Option.some.inj found).symm

end Key

theorem access_iff (value : Constant) (access : Access) : access? value = some access ↔ value = .int access.rank := by
  constructor
  · intro read
    obtain ⟨number, given, ranked⟩ := Option.bind_eq_some_iff.mp read
    have rank : (access.rank : Int) = number := by simpa using List.find?_some ranked
    cases value <;> cases given
    rw [rank]
  · rintro rfl
    exact Access.access_of_rank access

theorem access_range (number : Int) : (access? (.int number)).isSome = true ↔ 0 ≤ number ∧ number ≤ 6 := by
  constructor
  · intro known
    obtain ⟨access, read⟩ := Option.isSome_iff_exists.mp known
    cases (access_iff _ _).mp read
    cases access <;> decide
  · rintro ⟨low, high⟩
    have given : number = 0 ∨ number = 1 ∨ number = 2 ∨ number = 3 ∨ number = 4 ∨ number = 5 ∨ number = 6 := by omega
    rcases given with rfl | rfl | rfl | rfl | rfl | rfl | rfl <;> rfl

theorem read_iff (key : Key) (value : Constant) (content : key.Content) :
    key.read? value = some content ↔ value = key.written content := by
  cases key with
  | propertyName | callbackName => exact value.text_iff content
  | preferParameter | useManager => exact value.bool_iff content
  | getter | setter => exact access_iff value content

def content? (arguments : NotifyArguments) : (key : Key) → Option key.Content
  | .propertyName => arguments.propertyName
  | .callbackName => arguments.callbackName
  | .preferParameter => arguments.preferParameter
  | .getter => arguments.getter
  | .setter => arguments.setter
  | .useManager => arguments.useManager

theorem same_contents (left right : NotifyArguments) (same : ∀ key, left.content? key = right.content? key) :
    left = right := by
  obtain ⟨_, _, _, _, _, _⟩ := left
  obtain ⟨_, _, _, _, _, _⟩ := right
  have name := same .propertyName
  have callback := same .callbackName
  have prefer := same .preferParameter
  have getter := same .getter
  have setter := same .setter
  have manager := same .useManager
  simp only [content?] at name callback prefer getter setter manager
  rw [name, callback, prefer, getter, setter, manager]

theorem take_content (arguments : NotifyArguments) (argument : String × Constant) (key : Key) :
    (arguments.take argument).content? key =
      if argument.1 = key.name then key.read? argument.2 else arguments.content? key := by
  obtain ⟨name, value⟩ := argument
  cases known : Key.ofName? name with
  | none =>
      have other : name ≠ key.name := by
        rintro rfl
        cases known.symm.trans (Key.key_of_own_name key)
      rw [take_unknown arguments name value known, if_neg other]
  | some named =>
      rw [Key.of_name_iff] at known
      subst known
      by_cases same : named = key
      · subst same
        rw [if_pos rfl, take, Key.key_of_own_name]
        cases named <;> rfl
      · rw [if_neg (mt (Key.name_injective named key) same), take, Key.key_of_own_name]
        cases named <;> cases key <;> first | rfl | exact absurd rfl same

-- Once an argument of the name has been met, what it says holds until the next one.
theorem fold_content (arguments : NotifyArguments) (named : List (String × Constant)) (key : Key) :
    (named.foldl take arguments).content? key =
      (Attribute.lastNamed? named key.name).elim (arguments.content? key) key.read? := by
  induction named generalizing arguments with
  | nil => rfl
  | cons argument rest ih =>
      rw [List.foldl_cons, ih, take_content, Attribute.last_named_cons]
      cases Attribute.lastNamed? rest key.name with
      | some value => rfl
      | none => by_cases same : argument.1 = key.name <;> simp [same]

theorem of_attribute_content (applied : Attribute) (key : Key) :
    (ofAttribute applied).content? key =
      (Attribute.lastNamed? applied.named key.name).elim (key.positional? applied.positional) key.read? := by
  rw [ofAttribute, fold_content]
  cases key <;> rfl

-- Changes to an attribute that replace nothing by something else.
inductive Rearranged : Attribute → Attribute → Prop
  | swapped (className : TypeName) (positional : List Constant) (front back : List (String × Constant))
      (first second : String × Constant) (apart : first.1 ≠ second.1) :
      Rearranged ⟨className, positional, front ++ first :: second :: back⟩
        ⟨className, positional, front ++ second :: first :: back⟩
  | unknown (className : TypeName) (positional : List Constant) (front back : List (String × Constant))
      (argument : String × Constant) (strange : Key.ofName? argument.1 = none) :
      Rearranged ⟨className, positional, front ++ argument :: back⟩ ⟨className, positional, front ++ back⟩
  | repeated (className : TypeName) (positional : List Constant) (front back : List (String × Constant))
      (argument later : String × Constant) (behind : later ∈ back) (same : later.1 = argument.1) :
      Rearranged ⟨className, positional, front ++ argument :: back⟩ ⟨className, positional, front ++ back⟩
  | further (className : TypeName) (first : Constant) (rest others : List Constant)
      (named : List (String × Constant)) :
      Rearranged ⟨className, first :: rest, named⟩ ⟨className, first :: others, named⟩

theorem rearranged_content (left right : Attribute) (change : Rearranged left right) (key : Key) :
    (ofAttribute left).content? key = (ofAttribute right).content? key := by
  rw [of_attribute_content, of_attribute_content]
  cases change with
  | swapped className positional front back first second apart =>
      dsimp only
      congr 1
      simp only [Attribute.last_named_append, Attribute.last_named_cons]
      by_cases own : first.1 = key.name
      · have other : second.1 ≠ key.name := fun same => apart (own.trans same.symm)
        simp [own, other]
      · simp [own]
  | unknown className positional front back argument strange =>
      have other : argument.1 ≠ key.name := by
        intro same
        rw [same, Key.key_of_own_name] at strange
        cases strange
      simp [Attribute.last_named_append, Attribute.last_named_cons, other]
  | repeated className positional front back argument later behind same =>
      have kept := Attribute.last_named_present back later behind
      dsimp only
      congr 1
      simp only [Attribute.last_named_append, Attribute.last_named_cons]
      by_cases own : argument.1 = key.name
      · rw [same, own] at kept
        obtain ⟨value, last⟩ := Option.isSome_iff_exists.mp kept
        simp [last]
      · simp [own]
  | further className first rest others named => rfl

theorem rearranged_same (left right : Attribute) (changes : Relation.EqvGen Rearranged left right) :
    ofAttribute left = ofAttribute right := by
  induction changes with
  | rel left right change => exact same_contents _ _ (rearranged_content left right change)
  | refl => rfl
  | symm _ _ _ ih => exact ih.symm
  | trans _ _ _ _ _ first second => exact first.trans second

theorem last_argument_counts (applied : Attribute) :
    let arguments := ofAttribute applied
    (∀ key, arguments.content? key =
      (Attribute.lastNamed? applied.named key.name).elim (key.positional? applied.positional) key.read?) ∧
    (∀ (key : Key) value content, key.read? value = some content ↔ value = key.written content) ∧
    (∀ number, (access? (.int number)).isSome = true ↔ 0 ≤ number ∧ number ≤ 6) ∧
    (∀ value, Attribute.lastNamed? applied.named Key.propertyName.name = some value →
      (∀ text, value = .text text → Text.isBlankText text = true) → arguments.propertyName? = none) ∧
    ∀ other, Relation.EqvGen Rearranged applied other → ofAttribute other = arguments := by
  intro arguments
  refine ⟨of_attribute_content applied, read_iff, access_range, fun value last blank => ?_, fun other changes => ?_⟩
  · have named : arguments.propertyName = value.asText? := by
      have content := of_attribute_content applied .propertyName
      rwa [last] at content
    rw [propertyName?, named]
    cases value with
    | text text => simp [Constant.asText?, blank text rfl]
    | null | bool | int | type | array => rfl
  · exact (rearranged_same applied other changes).symm

-- The last getter is no access and the name is null, so that neither what is replaced nor the text in front counts.
theorem replaced_arguments_unset :
    let virtual : String × Constant := ("IsVirtual", .bool true)
    let manager : String × Constant := ("UseCommandManager", .bool true)
    let applied : Attribute := ⟨AttributeClass.notify, [.text "First", .int 1],
      [("Getter", .int 2), ("PropertyName", .null), virtual, ("Getter", .int 9), manager]⟩
    let shorter : Attribute := ⟨AttributeClass.notify, [.text "First"],
      [("PropertyName", .null), manager, ("Getter", .int 9)]⟩
    Relation.EqvGen Rearranged applied shorter ∧ ofAttribute shorter = ofAttribute applied ∧
      (ofAttribute applied).getter = none ∧ (ofAttribute applied).propertyName? = none ∧
      (ofAttribute applied).useManager = some true := by
  intro virtual manager applied shorter
  have one : Rearranged applied ⟨applied.className, [.text "First"], applied.named⟩ :=
    .further _ (.text "First") [.int 1] [] _
  have two : Rearranged ⟨applied.className, [.text "First"], applied.named⟩
      ⟨applied.className, [.text "First"], [("PropertyName", .null), virtual, ("Getter", .int 9), manager]⟩ :=
    .repeated _ _ [] _ ("Getter", .int 2) ("Getter", .int 9) (by simp) rfl
  have three : Rearranged
      ⟨applied.className, [.text "First"], [("PropertyName", .null), virtual, ("Getter", .int 9), manager]⟩
      ⟨applied.className, [.text "First"], [("PropertyName", .null), ("Getter", .int 9), manager]⟩ :=
    .unknown _ _ [("PropertyName", .null)] _ virtual (by decide)
  have four : Rearranged ⟨applied.className, [.text "First"], [("PropertyName", .null), ("Getter", .int 9), manager]⟩
      shorter :=
    .swapped _ _ [("PropertyName", .null)] [] ("Getter", .int 9) manager (by decide)
  have changes : Relation.EqvGen Rearranged applied shorter :=
    .trans _ _ _ (.rel _ _ one) (.trans _ _ _ (.rel _ _ two) (.trans _ _ _ (.rel _ _ three) (.rel _ _ four)))
  obtain ⟨contents, _, _, blank, same⟩ := last_argument_counts applied
  refine ⟨changes, same shorter changes, contents .getter, blank .null rfl ?_, contents .useManager⟩
  rintro _ ⟨⟩

end NotifyArguments

end ObservableGen
