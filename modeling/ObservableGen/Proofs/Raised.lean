import Mathlib.Data.List.Nodup
import ObservableGen.Proofs.Settlement
import ObservableGen.Proofs.Spelling
set_option autoImplicit false

/-!
The names that a setter raises beside its own. Main statement: they are the names that the attributes list, without
the mark; the empty name is among them exactly if the mark is listed alone, and a name is raised twice exactly if it
is listed both with the mark and without it.
-/
namespace ObservableGen

namespace Identifier

theorem plain_empty_iff (text : String) : plain text = "" ↔ text = "" ∨ text = "@" := by
  constructor
  · intro none
    obtain unmarked | marked := spelling_cases text
    · exact .inl (unmarked.symm.trans none)
    · rw [none] at marked
      exact .inr marked
  · rintro (rfl | rfl)
    · decide
    · decide

-- Of different spellings, only a name and the same name behind the mark are one.
theorem plain_nodup_iff (spellings : List String) (once : spellings.Nodup) :
    (spellings.map plain).Nodup ↔ ∀ name ∈ spellings, plain name = name → "@" ++ name ∉ spellings := by
  rw [List.nodup_map_iff_inj_on once]
  constructor
  · intro apart name listed unmarked marked
    have same := congrArg String.length (apart name listed _ marked (by rw [plain_at, unmarked]))
    simp [String.length_append] at same
  · intro apart left leftIn right rightIn same
    obtain same | ⟨unmarked, rfl⟩ | ⟨unmarked, rfl⟩ := (plain_same_iff left right).mp same
    · exact same
    · exact absurd leftIn (apart right rightIn unmarked)
    · exact absurd rightIn (apart left leftIn unmarked)

end Identifier

namespace MemberAttributes

theorem mem_also_notified (attributes : List Attribute) (name : String) : name ∈ alsoNotified attributes ↔
    name ≠ "" ∧ ∃ applied ∈ Attribute.ofClass attributes AttributeClass.alsoNotify, name ∈ listedNames applied := by
  rw [alsoNotified, List.mem_eraseDups, List.mem_filter, List.mem_flatMap]
  simp [and_comm]

end MemberAttributes

namespace Source

-- The name that the argument stands for, where the tokens are these.
inductive NotificationArgument.Notifies (tokens : List Token) : NotificationArgument → String → Prop
  | token (name ident : String) (declared : ⟨name, ident⟩ ∈ tokens) : Notifies tokens (.token ident) name
  | literal (name : String) : Notifies tokens (.literal name) name

namespace TokenCache

theorem settled_notifies (cache : TokenCache) (property : Property) :
    List.Forall₂ (NotificationArgument.Notifies (cache.settle property).2.tokens) (cache.settle property).1.raised
      (property.alsoNotify.map Identifier.plain) := by
  rw [List.forall₂_map_right_iff]
  by_cases active : cache.active = true
  · have kept : (cache.registerAll (property.name :: property.alsoNotify)).tokens
        ⊆ (cache.settle property).2.tokens := by rw [settle_cache cache property active]; exact List.Subset.refl _
    have tokened := (settle_tokened cache property _ active kept).further
    refine tokened.flip.imp ?_
    rintro argument name ⟨ident, rfl, declared⟩
    exact .token _ _ declared
  · have spelled := (settle_inactive cache property (by simpa using active)).1.further
    rw [spelled, List.forall₂_map_left_iff]
    refine List.forall₂_same.mpr ?_
    exact fun name _ => .literal (Identifier.plain name)

-- One name has one argument, and one argument stands for one name.
theorem declared_unique (cache : TokenCache) :
    Relator.BiUnique fun (name : String) (argument : NotificationArgument) =>
      ∃ ident, argument = .token ident ∧ ⟨name, ident⟩ ∈ cache.tokens := by
  constructor
  · rintro left right argument ⟨ident, rfl, leftIn⟩ ⟨_, same, rightIn⟩
    cases same
    exact congrArg Token.name (token_of_ident cache _ _ leftIn rightIn rfl)
  · rintro name left right ⟨leftIdent, rfl, leftIn⟩ ⟨rightIdent, rfl, rightIn⟩
    have same := token_of_name cache _ _ leftIn rightIn rfl
    exact congrArg (NotificationArgument.token ∘ Token.ident) same

theorem settled_nodup_iff (cache : TokenCache) (property : Property) :
    (cache.settle property).1.raised.Nodup ↔ (property.alsoNotify.map Identifier.plain).Nodup := by
  by_cases active : cache.active = true
  · have registered := settle_cache cache property active
    have tokened := (settle_tokened cache property _ active (List.Subset.refl _)).further
    have unique := declared_unique (cache.registerAll (property.name :: property.alsoNotify))
    exact (List.rel_nodup unique (List.forall₂_map_left_iff.mpr tokened)).symm
  · have spelled := (settle_inactive cache property (by simpa using active)).1.further
    have literal : Function.Injective NotificationArgument.literal :=
      fun _ _ same => NotificationArgument.literal.inj same
    rw [spelled, ← List.nodup_map_iff literal, List.map_map]
    rfl

end TokenCache

end Source

namespace MemberAttributes

open Source Identifier

theorem raised_names_clean_iff (attributes : List Attribute) (cache : TokenCache)
    (property : Property) (given : property.alsoNotify = alsoNotified attributes) :
    let listed := alsoNotified attributes
    let names := listed.map plain
    let settled := cache.settle property
    (∀ name, name ∈ listed ↔ name ≠ "" ∧
      ∃ applied ∈ Attribute.ofClass attributes AttributeClass.alsoNotify, name ∈ listedNames applied) ∧
      List.Forall₂ (NotificationArgument.Notifies settled.2.tokens) settled.1.raised names ∧
      ("" ∈ names ↔ "@" ∈ listed) ∧
      (names.Nodup ↔ ∀ name ∈ listed, plain name = name → "@" ++ name ∉ listed) ∧
      (settled.1.raised.Nodup ↔ names.Nodup) := by
  intro listed names settled
  have notified := cache.settled_notifies property
  have apart := cache.settled_nodup_iff property
  rw [given] at notified apart
  refine ⟨mem_also_notified attributes, notified, ?_, plain_nodup_iff _ (also_notified_nodup attributes), apart⟩
  rw [List.mem_map]
  constructor
  · rintro ⟨name, inside, none⟩
    obtain rfl | rfl := (plain_empty_iff name).mp none
    · exact absurd rfl (also_notified_nonempty attributes "" inside)
    · exact inside
  · intro alone
    exact ⟨"@", alone, by decide⟩

-- Behind one mark, a second one belongs to the name.
theorem marked_twice_clean :
    let attributes : List Attribute :=
      [⟨AttributeClass.alsoNotify, [.array [.text "@@Name", .text "", .text "Title"]], []⟩,
        ⟨AttributeClass.alsoNotify, [.text "@Name"], []⟩]
    let cache := (TokenCache.empty true).registerAll ["Title", "Name"]
    let property : Property := { (default : Property) with name := "Text", alsoNotify := alsoNotified attributes }
    "" ∉ (alsoNotified attributes).map plain ∧ (cache.settle property).1.raised.Nodup := by
  intro attributes cache property
  obtain ⟨_, _, empty, names, raised⟩ := raised_names_clean_iff attributes cache property rfl
  exact ⟨mt empty.mp (by decide), raised.mpr (names.mpr (by decide))⟩

-- The mark is taken off only behind the comparisons that are to leave out the empty name and repeats.
theorem marked_names_unclean :
    let alone := alsoNotified [⟨AttributeClass.alsoNotify, [.text "@"], []⟩]
    let twice := alsoNotified [⟨AttributeClass.alsoNotify, [.array [.text "Name", .text "@Name"]], []⟩]
    let property : Property := { (default : Property) with name := "Text" }
    ("" ∈ alone.map plain ∧
      ((TokenCache.empty false).settle { property with alsoNotify := alone }).1.raised = [.literal ""]) ∧
    ¬ (twice.map plain).Nodup ∧
      ((TokenCache.empty false).settle { property with alsoNotify := twice }).1.raised
        = [.literal "Name", .literal "Name"] ∧
      ((TokenCache.empty true).settle { property with alsoNotify := twice }).1.raised
        = [.token "Name", .token "Name"] := by
  decide

end MemberAttributes

end ObservableGen
