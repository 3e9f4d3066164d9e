import Mathlib.Data.Finset.Card
import Mathlib.Logic.Relation
import ObservableGen.Compilation.Walk
set_option autoImplicit false

/-!
What stands above a type. Main statement: the questions about the hierarchy are answered by what steps
upwards lead to, through cycles and undeclared names alike, and walks that remember only the names they
have met come to an end with the same answers. The two walks agree but for a type that its own chain of base
classes comes back to.
-/
namespace ObservableGen

open Relation

namespace Hierarchy

def Step (next : DeclaredType → List TypeName) (types : List DeclaredType) (name upper : TypeName) : Prop :=
  upper ∈ above next types name

-- A step to the base class, and one to the base class or an interface.
abbrev Base : List DeclaredType → TypeName → TypeName → Prop := Step fun declared => declared.base.toList

abbrev Super : List DeclaredType → TypeName → TypeName → Prop := Step DeclaredType.supertypes

section Others

variable (next : DeclaredType → List TypeName) (types : List DeclaredType) (name : TypeName)

theorem above_others (other : TypeName) :
    above next (others types name) other = if other = name then [] else above next types other := by
  rw [above, others, List.find?_filter]
  by_cases same : other = name
  · have absent : types.find? (fun declared => decide
        ((declared.name != name) = true ∧ (declared.name == other) = true)) = none := by
      rw [List.find?_eq_none]
      simp [same]
    rw [if_pos same, absent]
    rfl
  · rw [if_neg same, above]
    congr 3
    funext declared
    by_cases found : declared.name = other <;> simp [found, same]

theorem step_others (lower upper : TypeName) :
    Step next (others types name) lower upper ↔ lower ≠ name ∧ Step next types lower upper := by
  rw [Step, Step, above_others]
  by_cases same : lower = name <;> simp [same]

theorem steps_of_others (lower upper : TypeName)
    (steps : TransGen (Step next (others types name)) lower upper) : TransGen (Step next types) lower upper :=
  TransGen.mono (fun _ _ step => ((step_others next types name _ _).mp step).2) _ _ steps

-- Steps from a name can be taken up from where they leave it for the last time.
theorem last_leaving (upper : TypeName) (steps : TransGen (Step next types) name upper) :
    ∃ first ∈ above next types name, ReflTransGen (Step next (others types name)) first upper := by
  induction steps with
  | single step => exact ⟨_, step, .refl⟩
  | @tail between upper _ step ih =>
      by_cases back : between = name
      · subst back
        exact ⟨upper, step, .refl⟩
      · obtain ⟨first, left, rest⟩ := ih
        exact ⟨first, left, rest.tail ((step_others next types name _ _).mpr ⟨back, step⟩)⟩

theorem avoids_or_passes (lower upper : TypeName) (steps : TransGen (Step next types) lower upper) :
    TransGen (Step next (others types name)) lower upper ∨ TransGen (Step next types) name upper := by
  induction steps with
  | @single upper step =>
      by_cases same : lower = name
      · subst same
        exact .inr (.single step)
      · exact .inl (.single ((step_others next types name _ _).mpr ⟨same, step⟩))
  | @tail between upper _ step ih =>
      obtain avoiding | passing := ih
      · by_cases same : between = name
        · subst same
          exact .inr (.single step)
        · exact .inl (avoiding.tail ((step_others next types name _ _).mpr ⟨same, step⟩))
      · exact .inr (passing.tail step)

theorem steps_iff (upper : TypeName) : TransGen (Step next types) name upper ↔
    ∃ first ∈ above next types name, upper = first ∨ TransGen (Step next (others types name)) first upper := by
  constructor
  · intro steps
    obtain ⟨first, left, rest⟩ := last_leaving next types name upper steps
    exact ⟨first, left, reflTransGen_iff_eq_or_transGen.mp rest⟩
  · rintro ⟨first, left, rfl | rest⟩
    · exact .single left
    · exact .head left (steps_of_others next types name _ _ rest)

theorem no_steps (bare : above next types name = []) (upper : TypeName) :
    ¬ TransGen (Step next types) name upper := by
  rw [steps_iff, bare]
  simp

end Others

theorem above_undeclared (next : DeclaredType → List TypeName) (types : List DeclaredType) (name : TypeName)
    (absent : types.find? (fun declared => declared.name == name) = none) : above next types name = [] := by
  rw [above, absent, Option.map_none, Option.getD_none]

theorem above_declared (next : DeclaredType → List TypeName) (types : List DeclaredType) (name : TypeName)
    (declared : DeclaredType) (found : types.find? (fun declared => declared.name == name) = some declared) :
    above next types name = next declared := by
  rw [above, found, Option.map_some, Option.getD_some]

theorem mem_bases (types : List DeclaredType) (name base : TypeName) :
    base ∈ bases types name ↔ TransGen (Base types) name base := by
  fun_induction bases types name with
  | case1 types name absent =>
      simp [no_steps _ _ _ (above_undeclared _ types name absent)]
  | case2 types name declared found rootless =>
      have bare := above_declared (fun declared => declared.base.toList) types name declared found
      rw [rootless] at bare
      simp [no_steps _ _ _ bare]
  | case3 types name declared found parent extended ih =>
      have single := above_declared (fun declared => declared.base.toList) types name declared found
      rw [extended] at single
      rw [steps_iff, single, List.mem_cons, ih]
      simp

theorem mem_ancestors (types : List DeclaredType) (pending : List TypeName) (upper : TypeName) :
    upper ∈ ancestors types pending ↔ ∃ name ∈ pending, TransGen (Super types) name upper := by
  fun_induction ancestors types pending with
  | case1 types => simp
  | case2 types name pending absent ih =>
      simp [ih, no_steps _ _ _ (above_undeclared _ types name absent)]
  | case3 types name pending declared found ih =>
      have supers := above_declared DeclaredType.supertypes types name declared found
      have own := steps_iff DeclaredType.supertypes types name upper
      rw [supers] at own
      rw [List.mem_append, ih]
      constructor
      · rintro (direct | ⟨other, listed, steps⟩)
        · exact ⟨name, List.mem_cons_self, own.mpr ⟨upper, direct, .inl rfl⟩⟩
        · obtain direct | waiting := List.mem_append.mp listed
          · exact ⟨name, List.mem_cons_self, own.mpr ⟨other, direct, .inr steps⟩⟩
          · exact ⟨other, List.mem_cons_of_mem _ waiting, steps_of_others _ types name _ _ steps⟩
      · rintro ⟨other, listed, steps⟩
        -- Steps from another pending name are found there, or pass through this one.
        have split : (other ∈ pending ∧ TransGen (Super (others types name)) other upper) ∨
            TransGen (Super types) name upper := by
          obtain rfl | waiting := List.mem_cons.mp listed
          · exact .inr steps
          · exact (avoids_or_passes _ types name _ _ steps).imp_left fun avoiding => ⟨waiting, avoiding⟩
        obtain ⟨waiting, avoiding⟩ | passing := split
        · exact .inr ⟨other, List.mem_append_right _ waiting, avoiding⟩
        · obtain ⟨first, direct, rfl | rest⟩ := own.mp passing
          · exact .inl direct
          · exact .inr ⟨first, List.mem_append_left _ direct, rest⟩

-- What the start and each name met lead to is met too, so all that steps from the start lead to is.
theorem met_of_closed (next : DeclaredType → List TypeName) (types : List DeclaredType) (start : TypeName)
    (met : TypeName → Prop) (closed : ∀ name, name = start ∨ met name → ∀ upper ∈ above next types name, met upper)
    (upper : TypeName) (steps : TransGen (Step next types) start upper) : met upper := by
  induction steps with
  | single step => exact closed start (.inl rfl) _ step
  | tail _ step ih => exact closed _ (.inr ih) _ step

-- All names that declarations give, and how many of them have not been met yet.
def given (types : List DeclaredType) : Finset TypeName :=
  (types.flatMap DeclaredType.supertypes).toFinset

def unmet (types : List DeclaredType) (seen : List TypeName) : Nat :=
  (given types \ seen.toFinset).card

theorem above_given (types : List DeclaredType) (name upper : TypeName)
    (direct : upper ∈ above DeclaredType.supertypes types name) : upper ∈ given types := by
  cases found : types.find? fun declared => declared.name == name with
  | none =>
      rw [above_undeclared _ types name found] at direct
      cases direct
  | some declared =>
      rw [above_declared _ types name declared found] at direct
      rw [given, List.mem_toFinset]
      exact List.mem_flatMap.mpr ⟨declared, List.mem_of_find?_eq_some found, direct⟩

theorem unmet_met (types : List DeclaredType) (seen : List TypeName) (name : TypeName)
    (inside : name ∈ given types) (new : name ∉ seen) : unmet types (name :: seen) + 1 = unmet types seen := by
  have waiting : name ∈ given types \ seen.toFinset := by simp [inside, new]
  rw [unmet, unmet, List.toFinset_cons, Finset.sdiff_insert, Finset.card_erase_add_one waiting]

theorem above_base (types : List DeclaredType) (name upper : TypeName) :
    upper ∈ above (fun declared => declared.base.toList) types name ↔ base? types name = some upper := by
  rw [above, base?]
  cases types.find? fun declared => declared.name == name <;> simp

theorem base_given (types : List DeclaredType) (name base : TypeName) (direct : base? types name = some base) :
    base ∈ given types := by
  apply above_given types name
  obtain ⟨declared, found, extended⟩ := Option.bind_eq_some_iff.mp direct
  rw [above_declared _ types name declared found, DeclaredType.supertypes, extended]
  exact List.mem_cons_self

theorem climb_ends (types : List DeclaredType) (sought : TypeName) (passed : List TypeName)
    (current : Option TypeName) (inside : ∀ name, current = some name → name ∈ given types) :
    ∃ answer, Climb types sought passed current answer := by
  induction left : unmet types passed using Nat.strong_induction_on generalizing passed current with
  | _ left ih =>
    subst left
    cases current with
    | none => exact ⟨false, .top passed⟩
    | some name =>
        by_cases same : name = sought
        · exact ⟨true, same ▸ .found passed⟩
        · by_cases known : name ∈ passed
          · exact ⟨false, .again passed name same known⟩
          · have fewer := unmet_met types passed name (inside name rfl) known
            obtain ⟨answer, rest⟩ := ih (unmet types (name :: passed)) (by omega) (name :: passed) (base? types name)
              (fun base direct => base_given types name base direct) rfl
            exact ⟨answer, .further passed name answer same known rest⟩

-- All names from the start up to the current one have been passed, and the sought one is not among them.
structure Climbed (types : List DeclaredType) (start sought : TypeName) (passed : List TypeName)
    (current : Option TypeName) : Prop where
  reached : ∀ name, current = some name → TransGen (Base types) start name
  closed : ∀ name, name = start ∨ name ∈ passed → ∀ base, base? types name = some base →
    base ∈ passed ∨ current = some base
  missing : sought ∉ passed

theorem climbed_start (types : List DeclaredType) (start sought : TypeName) :
    Climbed types start sought [] (base? types start) where
  reached base direct := .single ((above_base types start base).mpr direct)
  closed name known base direct := by
    obtain rfl : name = start := by simpa using known
    exact .inr direct
  missing := List.not_mem_nil

theorem climbed_further (types : List DeclaredType) (start sought name : TypeName) (passed : List TypeName)
    (other : name ≠ sought) (climbed : Climbed types start sought passed (some name)) :
    Climbed types start sought (name :: passed) (base? types name) where
  reached base direct := (climbed.reached name rfl).tail ((above_base types name base).mpr direct)
  closed lower known base direct := by
    by_cases same : lower = name
    · exact .inr (same ▸ direct)
    · have before : lower = start ∨ lower ∈ passed := by simpa [same] using known
      obtain inside | next := climbed.closed lower before base direct
      · exact .inl (List.mem_cons_of_mem _ inside)
      · cases next
        exact .inl List.mem_cons_self
  missing := by simp [other.symm, climbed.missing]

-- Where nothing new lies ahead, everything above the start has been passed.
theorem climbed_out (types : List DeclaredType) (start sought : TypeName) (passed : List TypeName)
    (current : Option TypeName) (climbed : Climbed types start sought passed current)
    (done : ∀ name, current = some name → name ∈ passed) : ¬ TransGen (Base types) start sought := by
  intro steps
  apply climbed.missing
  apply met_of_closed _ types start (· ∈ passed) _ sought steps
  intro name known base direct
  obtain inside | next := climbed.closed name known base ((above_base types name base).mp direct)
  · exact inside
  · exact done base next

theorem climb_answer (types : List DeclaredType) (start sought : TypeName) (passed : List TypeName)
    (current : Option TypeName) (answer : Bool) (climb : Climb types sought passed current answer)
    (climbed : Climbed types start sought passed current) :
    answer = true ↔ TransGen (Base types) start sought := by
  induction climb with
  | top passed =>
      have out := climbed_out types start sought passed none climbed (by simp)
      simp [out]
  | found passed => simp [climbed.reached sought rfl]
  | again passed name other known =>
      have out := climbed_out types start sought passed (some name) climbed (by simpa using known)
      simp [out]
  | further passed name answer other new rest ih =>
      exact ih (climbed_further types start sought name passed other climbed)

namespace Sweep

variable (types : List DeclaredType) (start : TypeName)

-- What one name adds: nothing if it is known, and itself in both places if it is not.
theorem meet_cases (sweep : Sweep) (name : TypeName) :
    ((name = start ∨ name ∈ sweep.seen) ∧ meet start sweep name = sweep) ∨
      (name ≠ start ∧ name ∉ sweep.seen ∧ meet start sweep name = ⟨name :: sweep.seen, name :: sweep.pending⟩) := by
  by_cases known : name = start ∨ name ∈ sweep.seen
  · exact .inl ⟨known, if_pos known⟩
  · rw [not_or] at known
    exact .inr ⟨known.1, known.2, if_neg (not_or.mpr known)⟩

theorem meet_all_seen (sweep : Sweep) (names : List TypeName) (other : TypeName) :
    other ∈ (meetAll start sweep names).seen ↔ other ∈ sweep.seen ∨ other ∈ names ∧ other ≠ start := by
  induction names generalizing sweep with
  | nil => simp [meetAll]
  | cons name rest ih =>
      have others := ih (meet start sweep name)
      rw [meetAll, List.foldl_cons, ← meetAll, others]
      obtain ⟨known, kept⟩ | ⟨apart, new, grown⟩ := meet_cases start sweep name
      · rw [kept]
        grind
      · rw [grown]
        grind

theorem meet_all_pending (sweep : Sweep) (names : List TypeName) (other : TypeName) :
    other ∈ (meetAll start sweep names).pending ↔
      other ∈ sweep.pending ∨ other ∈ names ∧ other ≠ start ∧ other ∉ sweep.seen := by
  induction names generalizing sweep with
  | nil => simp [meetAll]
  | cons name rest ih =>
      have others := ih (meet start sweep name)
      rw [meetAll, List.foldl_cons, ← meetAll, others]
      obtain ⟨known, kept⟩ | ⟨apart, new, grown⟩ := meet_cases start sweep name
      · rw [kept]
        grind
      · rw [grown]
        grind

-- Each name that is added to those pending is one less to be met.
theorem meet_all_measure (sweep : Sweep) (names : List TypeName) (inside : ∀ name ∈ names, name ∈ given types) :
    unmet types (meetAll start sweep names).seen + (meetAll start sweep names).pending.length
      = unmet types sweep.seen + sweep.pending.length := by
  induction names generalizing sweep with
  | nil => rfl
  | cons name rest ih =>
      obtain ⟨first, later⟩ := List.forall_mem_cons.mp inside
      rw [meetAll, List.foldl_cons, ← meetAll, ih (meet start sweep name) later]
      obtain ⟨_, kept⟩ | ⟨_, new, grown⟩ := meet_cases start sweep name
      · rw [kept]
      · have fewer := unmet_met types sweep.seen name first new
        rw [grown, List.length_cons]
        dsimp only
        omega

theorem sweep_ends (sweep : Sweep) : ∃ found, Ends types start sweep found := by
  induction left : unmet types sweep.seen + sweep.pending.length using Nat.strong_induction_on
    generalizing sweep with
  | _ left ih =>
    subst left
    obtain ⟨seen, pending⟩ := sweep
    cases pending with
    | nil => exact ⟨seen, .done seen⟩
    | cons name pending =>
        have measure := meet_all_measure types start ⟨seen, pending⟩ (above DeclaredType.supertypes types name)
          fun upper direct => above_given types name upper direct
        obtain ⟨found, rest⟩ := ih _ (by rw [measure]; simp) (meetAll start ⟨seen, pending⟩ _) rfl
        exact ⟨found, .next seen pending found name rest⟩

-- What has been met stands above the start, and what stands directly above it or above a name met has
-- been met too, unless that name is still to be gone on from.
structure Swept (sweep : Sweep) : Prop where
  waiting : ∀ name ∈ sweep.pending, name = start ∨ name ∈ sweep.seen
  reached : ∀ name ∈ sweep.seen, name ≠ start ∧ TransGen (Super types) start name
  closed : ∀ name, name = start ∨ name ∈ sweep.seen → name ∈ sweep.pending ∨
    ∀ upper ∈ above DeclaredType.supertypes types name, upper = start ∨ upper ∈ sweep.seen

theorem swept_start : Swept types start ⟨[], [start]⟩ where
  waiting := by simp
  reached := by simp
  closed := by simp

theorem swept_next (seen pending : List TypeName) (name : TypeName) (swept : Swept types start ⟨seen, name :: pending⟩) :
    Swept types start (meetAll start ⟨seen, pending⟩ (above DeclaredType.supertypes types name)) := by
  obtain ⟨own, waiting⟩ := List.forall_mem_cons.mp swept.waiting
  constructor
  · intro other listed
    rw [meet_all_seen]
    obtain before | ⟨direct, apart, _⟩ := (meet_all_pending start _ _ other).mp listed
    · exact (waiting other before).imp_right .inl
    · exact .inr (.inr ⟨direct, apart⟩)
  · intro other listed
    obtain before | ⟨direct, apart⟩ := (meet_all_seen start _ _ other).mp listed
    · exact swept.reached other before
    · refine ⟨apart, ?_⟩
      obtain rfl | met := own
      · exact .single direct
      · exact (swept.reached name met).2.tail direct
  · intro other known
    by_cases before : other = start ∨ other ∈ seen
    · obtain listed | direct := swept.closed other before
      · obtain rfl | later := List.mem_cons.mp listed
        · refine .inr fun upper direct => ?_
          by_cases back : upper = start
          · exact .inl back
          · exact .inr ((meet_all_seen start _ _ upper).mpr (.inr ⟨direct, back⟩))
        · exact .inl ((meet_all_pending start _ _ other).mpr (.inl later))
      · exact .inr fun upper given =>
          (direct upper given).imp_right fun met => (meet_all_seen start _ _ upper).mpr (.inl met)
    · rw [not_or] at before
      obtain ⟨direct, apart⟩ :=
        ((meet_all_seen start _ _ other).mp (known.resolve_left before.1)).resolve_left before.2
      exact .inl ((meet_all_pending start _ _ other).mpr (.inr ⟨direct, apart, before.2⟩))

-- A run ends with exactly what steps from the start lead to, the start itself left out.
theorem swept_found (sweep : Sweep) (found : List TypeName) (ends : Ends types start sweep found)
    (swept : Swept types start sweep) (name : TypeName) :
    name ∈ found ↔ name ≠ start ∧ TransGen (Super types) start name := by
  induction ends with
  | done seen =>
      refine ⟨swept.reached name, ?_⟩
      rintro ⟨apart, steps⟩
      have met := met_of_closed _ types start (fun name => name = start ∨ name ∈ seen)
        (fun lower known => (swept.closed lower (by simpa using known)).resolve_left List.not_mem_nil) name steps
      exact met.resolve_left apart
  | next seen pending found name rest ih => exact ih (swept_next types start seen pending name swept)

end Sweep

-- The base class so many steps up.
def baseAfter (types : List DeclaredType) (name : TypeName) : Nat → Option TypeName
  | 0 => some name
  | count + 1 => (baseAfter types name count).bind (base? types)

-- Whether the chain of base classes above a type comes back to it.
def Returns (types : List DeclaredType) (name : TypeName) : Prop :=
  ∃ count, baseAfter types name (count + 1) = some name

theorem base_steps_iff (types : List DeclaredType) (name upper : TypeName) :
    TransGen (Base types) name upper ↔ ∃ count, baseAfter types name (count + 1) = some upper := by
  constructor
  · intro steps
    induction steps with
    | single step => exact ⟨0, (above_base types name _).mp step⟩
    | @tail between upper _ step ih =>
        obtain ⟨count, reached⟩ := ih
        refine ⟨count + 1, ?_⟩
        rw [baseAfter, reached]
        exact (above_base types between upper).mp step
  · rintro ⟨count, reached⟩
    induction count generalizing upper with
    | zero => exact .single ((above_base types name upper).mpr reached)
    | succ count ih =>
        obtain ⟨between, before, direct⟩ := Option.bind_eq_some_iff.mp reached
        exact (ih between before).tail ((above_base types between upper).mpr direct)

theorem super_of_base (types : List DeclaredType) (name upper : TypeName) (step : Base types name upper) :
    Super types name upper := by
  obtain ⟨declared, found, extended⟩ := Option.bind_eq_some_iff.mp ((above_base types name upper).mp step)
  rw [Super, Step, above_declared _ types name declared found, DeclaredType.supertypes, extended]
  exact List.mem_cons_self

end Hierarchy

namespace Compilation

open Hierarchy

theorem inherits_from_iff (compilation : Compilation) (name base : TypeName) :
    compilation.inheritsFrom name base = true ↔ TransGen (Base compilation.types) name base := by
  rw [inheritsFrom, List.contains_iff_mem, mem_bases]

theorem implements_iff (compilation : Compilation) (name interface : TypeName) :
    compilation.implements name interface = true ↔
      interface ≠ name ∧ TransGen (Super compilation.types) name interface := by
  rw [implements, List.contains_iff_mem, supertypes, List.mem_filter, mem_ancestors, bne_iff_ne, and_comm]
  simp

theorem is_assignable_iff (compilation : Compilation) (value expected : TypeUse) :
    compilation.isAssignable value expected = true ↔
      expected.name ∈ [⟨"object"⟩, ⟨"System.Object"⟩] ∨ expected.name = value.name ∨
        TransGen (Super compilation.types) value.name expected.name := by
  rw [isAssignable, Bool.or_eq_true, Bool.or_eq_true, implements_iff, or_assoc, beq_iff_eq, eq_comm (a := value.name)]
  refine or_congr (by simp [isObject]) ?_
  by_cases same : expected.name = value.name
  · simp only [same, true_or]
  · simp only [same, false_or, ne_eq, not_false_eq_true, true_and]

-- Each question is answered by what steps through declared types lead to, and the walk that only
-- remembers names ends, with the same answer and no other.
theorem hierarchy_exact (compilation : Compilation) :
    (∀ name base,
      (compilation.inheritsFrom name base = true ↔ TransGen (Base compilation.types) name base) ∧
      (∃ answer, Climb compilation.types base [] (base? compilation.types name) answer) ∧
      ∀ answer, Climb compilation.types base [] (base? compilation.types name) answer →
        answer = compilation.inheritsFrom name base) ∧
    (∀ name,
      (∀ interface, compilation.implements name interface = true ↔
        interface ≠ name ∧ TransGen (Super compilation.types) name interface) ∧
      (∃ found, Sweep.Ends compilation.types name ⟨[], [name]⟩ found) ∧
      ∀ found, Sweep.Ends compilation.types name ⟨[], [name]⟩ found →
        ∀ interface, interface ∈ found ↔ compilation.implements name interface = true) ∧
    (∀ value expected,
      (compilation.isAssignable value expected = true ↔
        expected.name ∈ [⟨"object"⟩, ⟨"System.Object"⟩] ∨ expected.name = value.name ∨
          TransGen (Super compilation.types) value.name expected.name) ∧
      ∀ valueNullable expectedNullable,
        compilation.isAssignable ⟨value.text, valueNullable⟩ ⟨expected.text, expectedNullable⟩
          = compilation.isAssignable value expected) := by
  refine ⟨fun name base => ⟨inherits_from_iff compilation name base, ?_, ?_⟩,
    fun name => ⟨implements_iff compilation name, ?_, ?_⟩,
    fun value expected => ⟨is_assignable_iff compilation value expected, fun _ _ => rfl⟩⟩
  · exact climb_ends _ base [] _ fun parent direct => base_given _ name parent direct
  · intro answer climb
    rw [Bool.eq_iff_iff, inherits_from_iff]
    exact climb_answer _ name base [] _ answer climb (climbed_start _ name base)
  · exact Sweep.sweep_ends _ name _
  · intro found ends interface
    rw [implements_iff]
    exact Sweep.swept_found _ name _ found ends (Sweep.swept_start _ name) interface

-- A base class stands above the type, unless it is the type itself: one walk reports where the chain of base
-- classes comes back to its start, and the other leaves the start out.
theorem inheritance_implemented_iff (compilation : Compilation) (name : TypeName) :
    (compilation.inheritsFrom name name = true ↔ Returns compilation.types name) ∧
    ∀ base,
      ((compilation.inheritsFrom name base = true → compilation.implements name base = true) ↔
        (base = name → ¬ Returns compilation.types name)) ∧
      ∀ answer found, Climb compilation.types base [] (base? compilation.types name) answer →
        Sweep.Ends compilation.types name ⟨[], [name]⟩ found →
        ((answer = true → base ∈ found) ↔ (base = name → ¬ Returns compilation.types name)) := by
  have itself : compilation.inheritsFrom name name = true ↔ Returns compilation.types name := by
    rw [inherits_from_iff, base_steps_iff, Returns]
  have agree (base : TypeName) :
      (compilation.inheritsFrom name base = true → compilation.implements name base = true) ↔
        (base = name → ¬ Returns compilation.types name) := by
    constructor
    · rintro both rfl returns
      have above := both (itself.mpr returns)
      exact ((implements_iff compilation base base).mp above).1 rfl
    · intro apart inherited
      rw [implements_iff]
      constructor
      · rintro rfl
        exact apart rfl (itself.mp inherited)
      · have steps := (inherits_from_iff compilation name base).mp inherited
        exact TransGen.mono (super_of_base compilation.types) _ _ steps
  refine ⟨itself, fun base => ⟨agree base, ?_⟩⟩
  intro answer found climb ends
  have climbed := climb_answer _ name base [] _ answer climb (climbed_start _ name base)
  have swept := Sweep.swept_found _ name _ found ends (Sweep.swept_start _ name) base
  rw [climbed, swept, ← inherits_from_iff, ← implements_iff, agree]

-- Two classes that extend each other.
def extending (name base : String) : DeclaredType :=
  ⟨none, [⟨"class", name, []⟩], some ⟨base⟩, [], [], []⟩

def entangled : Compilation := (empty.declare (extending "A" "B")).declare (extending "B" "A")

theorem entangled_class_inherits_itself :
    entangled.inheritsFrom ⟨"A"⟩ ⟨"A"⟩ = true ∧ entangled.implements ⟨"A"⟩ ⟨"A"⟩ = false := by
  constructor
  · rw [inherits_from_iff, base_steps_iff]
    exact ⟨1, by decide⟩
  · rw [← Bool.not_eq_true, implements_iff]
    exact fun above => above.1 rfl

end Compilation

end ObservableGen
