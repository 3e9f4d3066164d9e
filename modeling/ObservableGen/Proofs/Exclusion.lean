import ObservableGen.Proofs.Accepted
import ObservableGen.Proofs.Structure
set_option autoImplicit false

/-!
What eligibility leaves open. Main statement: an eligible member is decided, and refused only for its
name or its missing marker; an eligible resource is found. So nothing else is ever reported.
-/
namespace ObservableGen

open Source

-- Why an eligible member may still get no property. Only the property of a field is kept under a name
-- that somebody else has chosen.
inductive Refused : Target → Rejection → Prop
  | fieldUnmarked (field : FieldMember) : Refused (.field field) (.missingNotify field.name)
  | fieldMisnamed (field : FieldMember) (name : String)
      (unsound : Identifier.isIdentifier name = false) :
      Refused (.field field) (.invalidIdentifier field.name name)
  | fieldCollides (field : FieldMember) (spelled : Identifier.isIdentifier field.name = true) :
      Refused (.field field) (.nameCollision field.name field.name)
  | methodUnmarked (method : MethodMember) : Refused (.method method) (.missingNotify method.name)
  | methodMisnamed (method : MethodMember) (name : String)
      (unsound : Identifier.isIdentifier name = false) :
      Refused (.method method) (.invalidIdentifier method.name name)

-- The resource is there, and its text is no flat map of texts.
inductive Unread (host : Host) : LocalizationFailure → Prop
  | unreadable (resource : String) (file : AdditionalText) (fault : Json.Fault)
      (present : host.text? resource = some file) (faulty : Json.readStringMap file.text = .error fault) :
      Unread host (.unreadable resource fault)

namespace Property

theorem validated_eq_error (property : Property) (member : String) (reason : Rejection)
    (refused : property.validated member = .error reason) :
    Identifier.isIdentifier property.name = false ∧ reason = .invalidIdentifier member property.name ∨
      Identifier.isIdentifier property.name = true ∧ property.name = property.backing ∧
        reason = .nameCollision member property.name := by
  unfold validated at refused
  repeat' split at refused
  · rename_i unsound
    cases refused
    exact .inl ⟨by simpa using unsound, rfl⟩
  · rename_i sound same
    cases refused
    exact .inr ⟨by simpa using sound, same, rfl⟩
  · cases refused

theorem with_arguments_error (member : String) (attributes : List Attribute)
    (next : NotifyArguments → Reported (Except Rejection Property)) (reason : Rejection)
    (refused : (withArguments member attributes next).value = .error reason) :
    reason = .missingNotify member ∨ ∃ arguments, (next arguments).value = .error reason := by
  unfold withArguments at refused
  split at refused
  · cases refused
    exact .inl rfl
  · exact .inr ⟨_, refused⟩

theorem field_refused (host : Host) (owner : Option DeclaredType) (field : FieldMember)
    (reason : Rejection) (refused : (ofField host owner field).value = .error reason) :
    Refused (.field field) reason := by
  obtain rfl | ⟨arguments, settled⟩ := with_arguments_error _ _ _ _ refused
  · exact .fieldUnmarked field
  · unfold ofFieldArguments at settled
    split at settled
    · cases settled
      exact .fieldMisnamed field "" (by decide)
    · obtain ⟨unsound, rfl⟩ | ⟨sound, same, rfl⟩ := validated_eq_error _ _ _ settled
      · exact .fieldMisnamed field _ unsound
      · dsimp only at same sound ⊢
        rw [same] at sound ⊢
        exact .fieldCollides field sound

-- The field that is generated for a command has a longer name than the property.
theorem method_refused (host : Host) (owner : Option DeclaredType) (method : MethodMember)
    (command : Command) (wrapped : Command.ofMethod? method = some command) (reason : Rejection)
    (refused : (ofMethod host owner method).value = .error reason) :
    Refused (.method method) reason := by
  obtain rfl | ⟨arguments, settled⟩ := with_arguments_error _ _ _ _ refused
  · exact .methodUnmarked method
  · rw [Reported.value_silent, ofMethodArguments, wrapped] at settled
    obtain ⟨unsound, rfl⟩ | ⟨sound, same, _⟩ := validated_eq_error _ _ _ settled
    · exact .methodMisnamed method _ unsound
    · dsimp only at same sound
      have apart := Naming.backing_field_apart _ sound
      rw [← Naming.backing_field_unmarked _ sound, ← same] at apart
      exact absurd rfl apart

end Property

namespace Eligibility

theorem eligible_target (host : Host) (base : TypeName) (marker : Marker) (candidate : Candidate)
    (fits : isEligible host base marker candidate = true) :
    targetFits host base marker candidate = true :=
  (Bool.and_eq_true_iff.mp fits).2

theorem eligible_member (host : Host) (base : TypeName) (candidate : Candidate)
    (fits : isEligible host base .notify candidate = true) :
    (∃ field, candidate.target = .field field) ∨
      ∃ method command, candidate.target = .method method ∧ Command.ofMethod? method = some command := by
  have suits := eligible_target host base .notify candidate fits
  unfold targetFits at suits
  cases target : candidate.target with
  | field member => exact .inl ⟨member, rfl⟩
  | method member =>
      rw [target] at suits
      obtain ⟨command, wrapped⟩ := Option.isSome_iff_exists.mp (Bool.and_eq_true_iff.mp suits).2
      exact .inr ⟨member, command, rfl, wrapped⟩
  | type attributes =>
      rw [target] at suits
      cases suits

theorem eligible_resource (host : Host) (base : TypeName) (candidate : Candidate)
    (fits : isEligible host base .localize candidate = true) :
    ∃ resource file, MemberAttributes.localizeResource candidate.target.attributes = some resource ∧
      host.text? resource = some file := by
  have suits := eligible_target host base .localize candidate fits
  unfold targetFits at suits
  cases target : candidate.target with
  | field member =>
      rw [target] at suits
      cases suits
  | method member =>
      rw [target] at suits
      cases suits
  | type attributes =>
      simp only [target, localizeFits] at suits
      cases named : MemberAttributes.localizeResource attributes with
      | none =>
          rw [named] at suits
          cases suits
      | some resource =>
          rw [named] at suits
          obtain ⟨file, present⟩ := Option.isSome_iff_exists.mp suits
          exact ⟨resource, file, named, present⟩

theorem eligible_decided (host : Host) (base : TypeName) (candidate : Candidate)
    (fits : isEligible host base .notify candidate = true) (owner : Option DeclaredType) :
    ∃ decided, Property.ofTarget? host owner candidate.target = some decided ∧
      ∀ reason, decided.value = .error reason → Refused candidate.target reason := by
  obtain ⟨field, target⟩ | ⟨method, command, target, wrapped⟩ := eligible_member host base candidate fits
  · rw [target]
    exact ⟨_, rfl, Property.field_refused host owner field⟩
  · rw [target]
    exact ⟨_, rfl, Property.method_refused host owner method command wrapped⟩

theorem eligible_loaded (host : Host) (base : TypeName) (candidate : Candidate)
    (fits : isEligible host base .localize candidate = true) (reason : LocalizationFailure)
    (failed : Localization.load host candidate.target.attributes = .error reason) :
    Unread host reason := by
  obtain ⟨resource, file, named, present⟩ := eligible_resource host base candidate fits
  simp only [Localization.load, named, present, Localization.read] at failed
  split at failed
  · cases failed
  · rename_i fault faulty
    cases failed
    exact .unreadable resource file fault present faulty

end Eligibility

-- Notices that report of no failure to generate.
def Notice.Harmless : Notice → Prop
  | .rejected _ _ _ | .notLocalized _ _ => False
  | _ => True

theorem arguments_harmless (applied : Attribute) :
    ∀ notice ∈ NotifyArguments.notices applied, notice.Harmless := by
  intro notice given
  obtain ⟨argument, _, reported⟩ := List.mem_flatMap.mp given
  unfold NotifyArguments.noticesOfArgument at reported
  repeat' split at reported
  all_goals simp at reported
  all_goals rw [reported]; trivial

theorem decided_harmless (host : Host) (owner : Option DeclaredType) (target : Target)
    (decided : Reported (Except Rejection Property))
    (found : Property.ofTarget? host owner target = some decided) :
    ∀ notice ∈ decided.notices, notice.Harmless := by
  have marked (member : String) (attributes : List Attribute)
      (next : NotifyArguments → Reported (Except Rejection Property))
      (quiet : ∀ arguments, ∀ notice ∈ (next arguments).notices, notice.Harmless) :
      ∀ notice ∈ (Property.withArguments member attributes next).notices, notice.Harmless := by
    unfold Property.withArguments
    split
    · simp [Reported.silent]
    · exact List.forall_mem_append.mpr ⟨arguments_harmless _, quiet _⟩
  cases target with
  | field member =>
      cases found
      apply marked
      intro arguments
      unfold Property.ofFieldArguments
      split
      · simp [Reported.silent]
      · dsimp only
        split
        · simp [Notice.Harmless]
        · simp
  | method member =>
      cases found
      apply marked
      simp [Reported.silent]
  | type attributes => cases found

theorem texts_harmless (resource : String) (seen : List String) (entries : Json.Entries) :
    ∀ notice ∈ (Localization.textsFrom resource seen entries).notices, notice.Harmless := by
  induction entries generalizing seen with
  | nil => simp [Localization.textsFrom, Reported.silent]
  | cons entry rest ih =>
      unfold Localization.textsFrom
      split
      · exact List.forall_mem_cons.mpr ⟨trivial, ih seen⟩
      · split
        · exact List.forall_mem_cons.mpr ⟨trivial, ih seen⟩
        · exact ih _

namespace Pass

-- What is reported as not generated was asked for by an eligible candidate, and refused for a reason
-- that eligibility leaves open.
def Explained (host : Host) (chosen : List Admitted) : Notice → Prop
  | .rejected member owner reason => ∃ candidate, (.notify, candidate) ∈ chosen ∧
      candidate.memberName = member ∧ candidate.owner = owner ∧ Refused candidate.target reason
  | .notLocalized owner reason => ∃ candidate, (.localize, candidate) ∈ chosen ∧
      candidate.owner = owner ∧ Unread host reason
  | _ => True

theorem explained_of_harmless (host : Host) (chosen : List Admitted) (notice : Notice)
    (harmless : notice.Harmless) : Explained host chosen notice := by
  cases notice <;> trivial

section Steps

variable (host : Host) (base : TypeName) (chosen : List Admitted)
  (fit : ∀ member ∈ chosen, Eligibility.isEligible host base member.1 member.2 = true)
include fit

theorem add_candidate_explained (owner : TypeName) (state : TypeUnit × Shared) (candidate : Candidate)
    (inside : (.notify, candidate) ∈ chosen) (own : candidate.owner = owner) :
    ∀ notice ∈ (addCandidate host owner state candidate).notices, Explained host chosen notice := by
  obtain ⟨decided, found, refused⟩ := Eligibility.eligible_decided host base candidate
    (fit _ inside) (some state.1.type)
  have quiet := decided_harmless _ _ _ _ found
  rw [addCandidate, found]
  apply Reported.bind_notices
  · exact fun notice given => explained_of_harmless _ _ _ (quiet notice given)
  · cases outcome : decided.value with
    | ok property => simp [Reported.silent]
    | error reason =>
        simp only [List.mem_singleton, forall_eq]
        exact ⟨candidate, inside, rfl, own, refused reason outcome⟩

theorem add_marked_explained (owner : TypeName) (state : TypeUnit × Shared)
    (marked : Marker × List Candidate)
    (inside : ∀ candidate ∈ marked.2, (marked.1, candidate) ∈ chosen ∧ candidate.owner = owner) :
    ∀ notice ∈ (addMarked host owner state marked).notices, Explained host chosen notice := by
  obtain ⟨marker, candidates⟩ := marked
  cases marker with
  | notify =>
      apply Reported.fold_notices
      intro candidate listed state
      obtain ⟨present, own⟩ := inside candidate listed
      exact add_candidate_explained host base chosen fit owner state candidate present own
  | localize =>
      cases candidates with
      | nil => simp [addMarked, Reported.silent]
      | cons candidate rest =>
          obtain ⟨present, own⟩ := inside candidate List.mem_cons_self
          simp only [addMarked, List.head?_cons]
          cases loaded : Localization.load host candidate.target.attributes with
          | ok localization =>
              intro notice given
              exact explained_of_harmless _ _ _ (texts_harmless _ _ _ notice given)
          | error reason =>
              simp only [List.mem_singleton, forall_eq]
              exact ⟨candidate, present, own,
                Eligibility.eligible_loaded host base candidate (fit _ present) reason loaded⟩
  | notifyDataErrorInfo => simp [addMarked, Reported.silent]

theorem generate_type_explained (options : Options) (shared : Shared) (owner : TypeName)
    (members : List Admitted) (inside : ∀ member ∈ members, member ∈ chosen ∧ member.2.owner = owner) :
    ∀ notice ∈ (generateType options host shared owner members).notices,
      Explained host chosen notice := by
  unfold generateType
  split
  · simp [Explained]
  · apply Reported.bind_notices
    · apply Reported.fold_notices
      intro marked gathered state
      apply add_marked_explained host base chosen fit
      intro candidate listed
      exact inside _ (FirstSeen.mem_of_gathered members marked gathered candidate listed)
    · dsimp only
      split
      · simp [Explained]
      · simp [Reported.silent]

end Steps

theorem generate_explained (options : Options) (host : Host) (candidates : List Candidate) :
    ∀ notice ∈ (generate options host (admitted host options.observableBase candidates)).notices,
      Explained host (eligible host options.observableBase candidates) notice := by
  apply Reported.bind_notices
  · apply Reported.fold_notices
    intro group gathered state
    apply generate_type_explained host options.observableBase _
      fun member inside => ((mem_eligible _ _ _ member).mp inside).2.2
    intro member listed
    have present := FirstSeen.mem_of_gathered _ group gathered member listed
    rw [admitted_eligible] at present
    obtain ⟨found, inside, same⟩ := List.mem_map.mp present
    obtain ⟨own, rfl⟩ := Prod.mk.inj same
    exact ⟨inside, own⟩
  · simp [Explained]

theorem discover_harmless (host : Host) (base : TypeName) (flag : Cancellation) (polls : Nat)
    (candidates : List Candidate) :
    ∀ notice ∈ (discover host base flag polls candidates).notices, notice.Harmless := by
  induction candidates generalizing polls with
  | nil => simp [discover, Reported.silent]
  | cons candidate rest ih =>
      unfold discover
      split
      · simp [Reported.silent]
      · cases accepted : acceptance host base candidate with
        | error notice =>
            refine List.forall_mem_cons.mpr ⟨?_, ih _⟩
            unfold acceptance at accepted
            repeat' split at accepted
            all_goals cases accepted
            all_goals trivial
        | ok marker => exact ih _

theorem run_explained (options : Options) (host : Host) (candidates : List Candidate)
    (flag : Cancellation) : ∀ notice ∈ (run options host candidates flag).notices,
      Explained host (eligible host options.observableBase candidates) notice := by
  apply Reported.bind_notices
  · intro notice given
    exact explained_of_harmless _ _ _ (discover_harmless _ _ _ _ _ notice given)
  · rw [discover_outcome]
    split
    · rename_i stopped
      split at stopped <;> simp [Reported.silent]
    · rename_i found
      split at found
      · cases found
      · cases found
        exact generate_explained options host candidates

theorem eligibility_excludes (options : Options) (host : Host) :
    (∀ candidate, Eligibility.isEligible host options.observableBase .notify candidate = true →
      ∀ owner, ∃ decided, Property.ofTarget? host owner candidate.target = some decided ∧
        ∀ reason, decided.value = .error reason → Refused candidate.target reason) ∧
    (∀ candidate, Eligibility.isEligible host options.observableBase .localize candidate = true →
      ∀ reason, Localization.load host candidate.target.attributes = .error reason →
        Unread host reason) ∧
    ∀ candidates flag, ∀ notice ∈ (run options host candidates flag).notices,
      Explained host (eligible host options.observableBase candidates) notice :=
  ⟨Eligibility.eligible_decided host options.observableBase,
    Eligibility.eligible_loaded host options.observableBase, run_explained options host⟩

-- A field under the name of its property, in a class whose texts are no flat map.
def cappedHost : Host := ((Compilation.empty.declare sampleType).addText ⟨"en.json", "[]"⟩).host

def cappedField : Candidate :=
  .ofTarget AttributeClass.notify sampleType.name (.field (Property.markedField "Name" "string" [] []))

def untranslated : Candidate :=
  .ofTarget AttributeClass.localize sampleType.name
    (.type [⟨AttributeClass.localize, [.text "en.json"], []⟩])

theorem capped_field_refused :
    let base := Options.default.observableBase
    let collision := Rejection.nameCollision "Name" "Name"
    let notices := (run Options.default cappedHost [cappedField, untranslated] fun _ => false).notices
    Eligibility.isEligible cappedHost base .notify cappedField = true ∧
      Eligibility.isEligible cappedHost base .localize untranslated = true ∧
      (∃ decided, Property.ofTarget? cappedHost (some sampleType) cappedField.target = some decided ∧
        decided.value = .error collision ∧ Refused cappedField.target collision) ∧
      (∃ reason, Localization.load cappedHost untranslated.target.attributes = .error reason ∧
        Unread cappedHost reason) ∧
      notices.head? = some (.rejected "Name" sampleType.name collision) ∧
      ∀ notice ∈ notices,
        Explained cappedHost (eligible cappedHost base [cappedField, untranslated]) notice := by
  intro base collision notices
  obtain ⟨settles, loads, explained⟩ := eligibility_excludes Options.default cappedHost
  have fieldFits : Eligibility.isEligible cappedHost base .notify cappedField = true := by
    decide +kernel
  have textsFit : Eligibility.isEligible cappedHost base .localize untranslated = true := by
    decide +kernel
  obtain ⟨decided, found, refused⟩ := settles cappedField fieldFits (some sampleType)
  have collides : decided.value = .error collision := by
    cases found
    rfl
  obtain ⟨reason, failed⟩ : ∃ reason,
      Localization.load cappedHost untranslated.target.attributes = .error reason := ⟨_, rfl⟩
  have first : notices.head? = some (.rejected "Name" sampleType.name collision) := by
    decide +kernel
  exact ⟨fieldFits, textsFit, ⟨decided, found, collides, refused _ collides⟩,
    ⟨reason, failed, loads untranslated textsFit reason failed⟩, first,
    explained [cappedField, untranslated] fun _ => false⟩

end Pass

end ObservableGen
