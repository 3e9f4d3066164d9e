set_option autoImplicit false

/-!
Lists in the order in which things are first seen: without repeats, and gathered under keys.
Main statements: a list without its repeats is in the order of the list, and a group holds exactly the
values listed under its key.
-/
namespace ObservableGen.FirstSeen

variable {α κ : Type} [DecidableEq α] [DecidableEq κ]

def under {β : Type} (key : κ) (entries : List (κ × β)) : List β :=
  (entries.filter fun entry => entry.1 == key).map Prod.snd

-- The values gathered under their keys, the keys in the order in which they are seen first.
def gather {β : Type} (entries : List (κ × β)) : List (κ × List β) :=
  (entries.map Prod.fst).eraseDups.map fun key => (key, under key entries)

theorem erase_dups_filter (keeps : α → Bool) (list : List α) :
    (list.filter keeps).eraseDups = list.eraseDups.filter keeps := by
  match list with
  | [] => rfl
  | a :: rest =>
      have shorter := erase_dups_filter keeps (rest.filter fun b => !b == a)
      by_cases kept : keeps a = true
      · rw [List.filter_cons_of_pos kept, List.eraseDups_cons, List.eraseDups_cons, List.filter_cons_of_pos kept,
          ← shorter, List.filter_filter, List.filter_filter]
        simp only [Bool.and_comm]
      · have gone : rest.filter keeps = (rest.filter fun b => !b == a).filter keeps := by
          rw [List.filter_filter]
          apply List.filter_congr
          intro b _
          by_cases same : b = a <;> simp [same, kept]
        rw [List.filter_cons_of_neg kept, List.eraseDups_cons, List.filter_cons_of_neg kept, ← shorter, gone]
termination_by list.length
decreasing_by exact Nat.lt_succ_of_le (List.length_filter_le _ _)

theorem erase_dups_cons (a : α) (rest : List α) :
    (a :: rest).eraseDups = a :: rest.eraseDups.filter fun b => b != a := by
  rw [List.eraseDups_cons, erase_dups_filter]
  rfl

theorem erase_dups_none (list : List α) : list.eraseDups = [] ↔ list = [] := by
  cases list <;> simp [List.eraseDups_cons]

theorem nodup_erase_dups (list : List α) : list.eraseDups.Nodup := by
  induction list with
  | nil => simp
  | cons b rest ih =>
      rw [erase_dups_cons, List.nodup_cons]
      exact ⟨by simp, ih.sublist List.filter_sublist⟩

theorem erase_dups_concat (list : List α) (a : α) :
    (list ++ [a]).eraseDups = if a ∈ list then list.eraseDups else list.eraseDups ++ [a] := by
  by_cases seen : a ∈ list <;> simp [List.eraseDups_append, List.removeAll, seen, List.eraseDups_cons]

theorem erase_dups_insert (front back : List α) (a : α) (seen : a ∈ front) :
    (front ++ a :: back).eraseDups = (front ++ back).eraseDups := by
  simp [List.eraseDups_append, List.removeAll, seen]

-- The elements of a list, one before another if it is seen before the other.
structure InOrder (keys seen : List κ) : Prop where
  mem_iff : ∀ key, key ∈ keys ↔ key ∈ seen
  order : keys.Pairwise fun first second => seen.idxOf first < seen.idxOf second

theorem in_order_erase_dups (seen : List κ) : InOrder seen.eraseDups seen := by
  refine ⟨fun key => List.mem_eraseDups, ?_⟩
  induction seen with
  | nil => exact .nil
  | cons a rest ih =>
      have later : ∀ b ∈ rest.eraseDups.filter fun b => b != a, (a :: rest).idxOf b = rest.idxOf b + 1 := by
        intro b inside
        have other : b ≠ a := by simpa using (List.mem_filter.mp inside).2
        rw [List.idxOf_cons, beq_false_of_ne other.symm, cond_false]
      rw [erase_dups_cons, List.pairwise_cons]
      refine ⟨fun b inside => ?_, ?_⟩
      · rw [later b inside, List.idxOf_cons_self]
        exact Nat.succ_pos _
      · apply (ih.filter _).imp_of_mem
        intro b c first second before
        rw [later b first, later c second]
        exact Nat.succ_lt_succ before

theorem mem_under {β : Type} (key : κ) (value : β) (entries : List (κ × β)) :
    value ∈ under key entries ↔ (key, value) ∈ entries := by
  rw [under, List.mem_map]
  constructor
  · rintro ⟨entry, kept, rfl⟩
    obtain ⟨present, same⟩ := List.mem_filter.mp kept
    rw [← eq_of_beq same]
    exact present
  · intro inside
    exact ⟨(key, value), List.mem_filter.mpr ⟨inside, by simp⟩, rfl⟩

theorem under_append {β : Type} (key : κ) (front back : List (κ × β)) :
    under key (front ++ back) = under key front ++ under key back := by
  simp [under]

theorem under_none {β : Type} (key : κ) (entries : List (κ × β))
    (absent : key ∉ entries.map Prod.fst) : under key entries = [] := by
  rw [List.eq_nil_iff_forall_not_mem]
  intro value inside
  exact absent (List.mem_map.mpr ⟨_, (mem_under key value entries).mp inside, rfl⟩)

-- Under other keys, later entries form groups of their own behind the earlier ones.
theorem gather_append {β : Type} (front back : List (κ × β))
    (apart : ∀ key ∈ back.map Prod.fst, key ∉ front.map Prod.fst) :
    gather (front ++ back) = gather front ++ gather back := by
  have early (key : κ) (inside : key ∈ (front.map Prod.fst).eraseDups) :
      (key, under key (front ++ back)) = (key, under key front) := by
    have absent : key ∉ back.map Prod.fst :=
      fun later => apart key later (List.mem_eraseDups.mp inside)
    rw [under_append, under_none key back absent, List.append_nil]
  have late (key : κ) (inside : key ∈ (back.map Prod.fst).eraseDups) :
      (key, under key (front ++ back)) = (key, under key back) := by
    have absent := apart key (List.mem_eraseDups.mp inside)
    rw [under_append, under_none key front absent, List.nil_append]
  have new : (back.map Prod.fst).removeAll (front.map Prod.fst) = back.map Prod.fst := by
    rw [List.removeAll, List.filter_eq_self]
    intro key inside
    simpa using apart key inside
  rw [gather, List.map_append, List.eraseDups_append, new, List.map_append, List.map_congr_left early,
    List.map_congr_left late, gather, gather]

-- What is made of the groups, if one more value makes no difference to the group of its key.
theorem gather_insert {β γ : Type} (made : κ × List β → γ) (front back : List (κ × β)) (key : κ)
    (value : β) (seen : key ∈ front.map Prod.fst)
    (same : made (key, under key front ++ value :: under key back)
      = made (key, under key front ++ under key back)) :
    (gather (front ++ (key, value) :: back)).map made = (gather (front ++ back)).map made := by
  rw [gather, gather, List.map_append, List.map_cons, erase_dups_insert _ _ key seen, ← List.map_append,
    List.map_map, List.map_map]
  apply List.map_congr_left
  intro other _
  rw [Function.comp_apply, Function.comp_apply, under_append, under_append]
  by_cases own : key = other
  · subst own
    simpa [under] using same
  · simp [under, own]

theorem mem_of_gathered {β : Type} (entries : List (κ × β)) (group : κ × List β)
    (inside : group ∈ gather entries) (value : β) (listed : value ∈ group.2) :
    (group.1, value) ∈ entries := by
  obtain ⟨key, _, rfl⟩ := List.mem_map.mp inside
  exact (mem_under key value entries).mp listed

theorem gather_keys {β : Type} (entries : List (κ × β)) :
    (gather entries).map Prod.fst = (entries.map Prod.fst).eraseDups := by
  simp [gather, Function.comp_def]

end ObservableGen.FirstSeen
