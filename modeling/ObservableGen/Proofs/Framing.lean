import Mathlib.Tactic.SplitIfs
import ObservableGen.Output
set_option autoImplicit false

/-!
The bytes that an output's digest is taken of. Main statement: where no null character is written, the zeros between
hints and texts can be told from all other bytes, so that one list of units continues another exactly if its bytes do;
different outputs with one digest are then a collision of the digest itself.
-/
namespace ObservableGen

open Source

namespace Text

def NullFree (text : String) : Prop := '\x00' ∉ text.toList

instance (text : String) : Decidable (NullFree text) := inferInstanceAs (Decidable (¬ _))

-- Leading bytes have 0xC0 added and further ones 0x80, so only the null character is encoded with a zero.
theorem encoded_byte (c : Char) (other : c ≠ '\x00') (byte : UInt8) (inside : byte ∈ String.utf8EncodeChar c) :
    ∃ value, 0 < value ∧ value < 256 ∧ byte = UInt8.ofNat value := by
  have code : c.val.toNat ≠ 0 := fun zero => other (Char.ext (UInt32.toNat_inj.mp zero))
  unfold String.utf8EncodeChar at inside
  dsimp only at inside
  split_ifs at inside <;> simp only [List.mem_cons, List.not_mem_nil, or_false] at inside
  · exact ⟨_, by omega, by omega, inside⟩
  · obtain same | same := inside
    all_goals exact ⟨_, by omega, by omega, same⟩
  · obtain same | same | same := inside
    all_goals exact ⟨_, by omega, by omega, same⟩
  · obtain same | same | same | same := inside
    all_goals exact ⟨_, by omega, by omega, same⟩

theorem encoded_nonzero (c : Char) (other : c ≠ '\x00') : 0 ∉ String.utf8EncodeChar c := by
  intro inside
  obtain ⟨value, positive, small, same⟩ := encoded_byte c other 0 inside
  have zero : (0 : UInt8).toNat = value := by rw [same, UInt8.toNat_ofNat_of_lt' small]
  exact absurd zero (Nat.ne_of_lt positive)

theorem bytes_encoded (text : String) : text.toUTF8.data.toList = text.toList.flatMap String.utf8EncodeChar := by
  obtain ⟨chars, rfl⟩ : ∃ chars, text = String.ofList chars := ⟨text.toList, String.ofList_toList.symm⟩
  rw [String.toList_ofList]
  exact List.toList_data_toByteArray

theorem bytes_nonzero (text : String) (free : NullFree text) : 0 ∉ text.toUTF8.data.toList := by
  rw [bytes_encoded]
  intro inside
  obtain ⟨c, listed, encoded⟩ := List.mem_flatMap.mp inside
  refine encoded_nonzero c ?_ encoded
  rintro rfl
  exact free listed

end Text

namespace Output

-- What is ended by the first zero is read off, whatever follows it.
theorem ended_prefix_iff (front back rest other : List UInt8) (frontClean : 0 ∉ front) (backClean : 0 ∉ back) :
    front ++ 0 :: rest <+: back ++ 0 :: other ↔ front = back ∧ rest <+: other := by
  induction front generalizing back with
  | nil =>
      cases back with
      | nil => simp
      | cons byte back => simp [List.cons_prefix_cons, List.ne_of_not_mem_cons backClean]
  | cons byte front ih =>
      have first := List.ne_of_not_mem_cons frontClean
      cases back with
      | nil => simp [List.cons_prefix_cons, first.symm]
      | cons next back =>
          have others := ih back (List.not_mem_of_not_mem_cons frontClean) (List.not_mem_of_not_mem_cons backClean)
          simp [List.cons_prefix_cons, others, and_assoc]

theorem terminated_prefix_iff (left right : String) (rest other : List UInt8) (leftFree : Text.NullFree left)
    (rightFree : Text.NullFree right) :
    terminated left ++ rest <+: terminated right ++ other ↔ left = right ∧ rest <+: other := by
  have bytes : left.toUTF8.data.toList = right.toUTF8.data.toList ↔ left = right := by
    rw [Array.toList_inj, ← ByteArray.ext_iff, String.toUTF8_eq_toByteArray, String.toUTF8_eq_toByteArray,
      String.toByteArray_inj]
  rw [terminated, terminated, List.append_assoc, List.append_assoc, List.singleton_append, List.singleton_append,
    ended_prefix_iff _ _ _ _ (Text.bytes_nonzero left leftFree) (Text.bytes_nonzero right rightFree), bytes]

-- No null character is written in any unit.
def NullFree (units : List SourceUnit) : Prop := ∀ unit ∈ units, Text.NullFree unit.hint ∧ Text.NullFree unit.text

instance (units : List SourceUnit) : Decidable (NullFree units) := List.decidableBAll _ _

theorem framed_cons (unit : SourceUnit) (rest : List SourceUnit) :
    framed (unit :: rest) = terminated unit.hint ++ (terminated unit.text ++ framed rest) := by
  rw [framed, List.flatMap_cons, List.append_assoc, ← framed]

-- By induction on the units, from the front: each field is ended before anything of the next one is read.
theorem framed_prefix_iff (first second : List SourceUnit) (firstFree : NullFree first) (secondFree : NullFree second) :
    framed first <+: framed second ↔ first <+: second := by
  induction first generalizing second with
  | nil => simp [framed]
  | cons unit rest ih =>
      obtain ⟨⟨hintFree, textFree⟩, restFree⟩ := List.forall_mem_cons.mp firstFree
      cases second with
      | nil => simp [framed, terminated]
      | cons other others =>
          obtain ⟨⟨otherHint, otherText⟩, othersFree⟩ := List.forall_mem_cons.mp secondFree
          rw [framed_cons, framed_cons, terminated_prefix_iff _ _ _ _ hintFree otherHint,
            terminated_prefix_iff _ _ _ _ textFree otherText, ih others restFree othersFree, List.cons_prefix_cons,
            SourceUnit.mk.injEq, and_assoc]

theorem framed_same_iff (first second : List SourceUnit) (firstFree : NullFree first) (secondFree : NullFree second) :
    framed first = framed second ↔ first = second := by
  constructor
  · intro same
    have there := (framed_prefix_iff first second firstFree secondFree).mp (same ▸ List.prefix_refl _)
    have back := (framed_prefix_iff second first secondFree firstFree).mp (same ▸ List.prefix_refl _)
    exact there.eq_of_length_le back.length_le
  · exact congrArg framed

end Output

-- Two inputs that the digest does not tell apart.
def Digest.XXH3.Collision (left right : ByteArray) : Prop := left ≠ right ∧ hash left = hash right

namespace Output

theorem digested_same_iff (first second : Output) (firstFree : NullFree first.units)
    (secondFree : NullFree second.units) : first.digested = second.digested ↔ first = second := by
  have bytes : first.digested = second.digested ↔ framed first.units = framed second.units := by
    simp [digested]
  rw [bytes, framed_same_iff _ _ firstFree secondFree]
  exact ⟨fun same => congrArg Output.mk same, congrArg units⟩

theorem framing_unambiguous (first second : Output) (firstFree : NullFree first.units)
    (secondFree : NullFree second.units) :
    (framed first.units <+: framed second.units ↔ first.units <+: second.units) ∧
    (framed first.units = framed second.units ↔ first.units = second.units) ∧
    (first.fingerprint = second.fingerprint ↔
      first = second ∨ Digest.XXH3.Collision first.digested second.digested) := by
  refine ⟨framed_prefix_iff _ _ firstFree secondFree, framed_same_iff _ _ firstFree secondFree, ?_⟩
  have apart := not_congr (digested_same_iff first second firstFree secondFree)
  constructor
  · intro same
    by_cases equal : first = second
    · exact .inl equal
    · exact .inr ⟨apart.mpr equal, same⟩
  · rintro (rfl | ⟨_, collided⟩)
    · rfl
    · exact collided

-- With null characters, one unit can have the bytes of two.
example : framed [⟨"a", "b\x00c\x00d"⟩] = framed [⟨"a", "b"⟩, ⟨"c", "d"⟩] := by decide

theorem moved_text_apart :
    let units : List SourceUnit := [⟨"Ā.g.cs", "𐀀"⟩, ⟨"B", ""⟩]
    let moved : List SourceUnit := [⟨"Ā", ".g.cs𐀀"⟩, ⟨"B", ""⟩]
    NullFree units ∧ NullFree moved ∧ framed units ≠ framed moved ∧ ¬ framed units <+: framed moved ∧
      ((⟨units⟩ : Output).fingerprint = (⟨moved⟩ : Output).fingerprint →
        Digest.XXH3.Collision (digested ⟨units⟩) (digested ⟨moved⟩)) := by
  intro units moved
  have free : NullFree units ∧ NullFree moved := by decide
  obtain ⟨continued, same, collided⟩ := framing_unambiguous ⟨units⟩ ⟨moved⟩ free.1 free.2
  have other : units ≠ moved := by decide
  refine ⟨free.1, free.2, mt same.mp other, mt continued.mp (by decide), fun equal => ?_⟩
  exact (collided.mp equal).resolve_left fun whole => other (congrArg Output.units whole)

end Output

end ObservableGen
