import ObservableGen.Proofs.Accepted
import ObservableGen.Proofs.Setter
set_option autoImplicit false

/-!
The members that a property's source declares, told apart from the rest of its text. Main statement:
which of their names are identifiers. The name of the property always is; those built from it fail
on a verbatim spelling, and on the letter whose lower case is not a letter.
-/
namespace ObservableGen.Source

inductive Role where
  | callback
  | backing
  | property
  | factory
deriving DecidableEq, Repr

-- A declared name between its modifiers with its type and the rest of its line.
structure Declaration where
  role : Role
  lead : String
  name : String
  tail : String
deriving DecidableEq, Repr

def Declaration.line (declaration : Declaration) : Line :=
  .flat (declaration.lead ++ " " ++ declaration.name ++ declaration.tail)

namespace PropertySource

def callbackDeclaration? (nullable : NullableMode) (property : Property) : Option Declaration :=
  property.callback.map fun callback =>
    let parameter := if callback.takesValue then "<" ++ property.valueType ++ ">" else ""
    ⟨.callback, "private global::System.Action" ++ parameter ++ nullable.mark,
      property.backing ++ "ChangedCallback", ";"⟩

def backingDeclaration? (property : Property) : Option Declaration :=
  property.command.map fun _ => ⟨.backing, "private " ++ property.valueType, property.backing, ";"⟩

def propertyDeclaration (property : Property) : Declaration :=
  ⟨.property, property.access.property.lead ++ property.valueType, property.name, ""⟩

def factoryDeclaration? (property : Property) : Option Declaration :=
  property.command.map fun command =>
    ⟨.factory, "private " ++ command.interfaceType, "Create" ++ property.name,
      "() => " ++ command.construction ++ ";"⟩

def declarations (nullable : NullableMode) (property : Property) : List Declaration :=
  (callbackDeclaration? nullable property).toList ++ (backingDeclaration? property).toList
    ++ [propertyDeclaration property] ++ (factoryDeclaration? property).toList

-- The source around the declarations.
def declaredLines (nullable : NullableMode) (source : PropertySource) : List Line :=
  let property := source.property
  (callbackDeclaration? nullable property).toList.flatMap (fun field => [field.line, .blank])
    ++ (backingDeclaration? property).toList.map Declaration.line
    ++ (property.doc.getD []).map (fun line => .flat ("/// " ++ line)) ++ property.customAttributes.map .flat
    ++ [(propertyDeclaration property).line]
    ++ Line.braced (.flat ((property.access.getter?.map Access.lead).getD "" ++ "get => " ++ property.backing ++ ";")
      :: source.setter.lines ((property.access.setter?.map Access.lead).getD ""))
    ++ (factoryDeclaration? property).toList.flatMap fun method => [.blank, method.line]

theorem declared_lines (nullable : NullableMode) (source : PropertySource) :
    source.lines nullable = source.declaredLines nullable := by
  have callback : callbackLines nullable source.property =
      (callbackDeclaration? nullable source.property).toList.flatMap fun field => [field.line, .blank] := by
    unfold callbackLines callbackDeclaration?
    cases source.property.callback with
    | none => rfl
    | some callback =>
        have lead : "private " ++ "global::System.Action" = "private global::System.Action" := rfl
        have front (rest : String) : "private " ++ ("global::System.Action" ++ rest)
            = "private global::System.Action" ++ rest := by rw [← lead, String.append_assoc]
        have text : "private " ++ delegateType source.property callback ++ nullable.mark ++ " "
            ++ callbackField source.property ++ ";" = "private global::System.Action"
              ++ (if callback.takesValue then "<" ++ source.property.valueType ++ ">" else "") ++ nullable.mark
              ++ " " ++ (source.property.backing ++ "ChangedCallback") ++ ";" := by
          unfold delegateType callbackField
          simp only [String.append_assoc]
          rw [front]
        exact congrArg (fun text => [Line.flat text, .blank]) text
  have backing : backingLines source.property =
      (backingDeclaration? source.property).toList.map Declaration.line := by
    cases held : source.property.command <;>
      simp [backingLines, backingDeclaration?, Property.isMethodBacked, held, Declaration.line]
  have factory : factoryLines source.property =
      (factoryDeclaration? source.property).toList.flatMap fun method => [.blank, method.line] := by
    have joint (rest : String) : " Create" ++ rest = " " ++ ("Create" ++ rest) := by
      rw [← String.append_assoc]
      rfl
    cases held : source.property.command <;>
      simp [factoryLines, factoryDeclaration?, held, Declaration.line, joint, String.append_assoc]
  have setter : source.setter.lines ((source.property.access.setter?.map Access.lead).getD "")
      = source.setterLines := source.setter_written
  rw [lines, declaredLines, callback, backing, factory, setter]
  simp [propertyDeclaration, Declaration.line, leadLines, getterLine]

end PropertySource

-- When a name of this role is an identifier, the property's own being one.
def Role.Sound (property : Property) : Role → Prop
  | .property => True
  | .callback | .backing =>
      property.command = none ∨ (Identifier.plain property.name).toList.head? ≠ some 'İ'
  | .factory => property.name.toList.head? ≠ some '@'

namespace PropertySource

open Identifier

theorem factory_identifier (name : String) (valid : isIdentifier name = true) :
    isIdentifier ("Create" ++ name) = true ↔ name.toList.head? ≠ some '@' := by
  rw [identifier_of_lead ("Create" ++ name) 'C' (by simp) (by decide) (by decide), String.toList_append]
  obtain ⟨word, rfl, _, _⟩ | ⟨_, form, _⟩ := identifier_cases name valid
  · have mark : isPart '@' = false := by decide
    simp [isWord, mark]
  · have lead : isWord "Create".toList = true := by decide
    rw [word_append _ _ lead (word_parts _ form)]
    simpa using word_unmarked _ form

theorem callback_identifier (member : String) (property : Property)
    (named : isIdentifier property.name = true) (kept : property.KeptIn member)
    (spelled : isIdentifier member = true) :
    isIdentifier (callbackField property) = isIdentifier property.backing := by
  have parts : "ChangedCallback".toList.all isPart = true := by decide
  cases kept with
  | field single own =>
      have whole := identifier_append member "ChangedCallback" spelled parts (by decide)
      rw [callbackField, own, whole, spelled]
  | command command held wraps made =>
      obtain ⟨first, rest, word, _, _⟩ := word_start _ (plain_word property.name named)
      have text := Naming.backing_field_text property.name first rest word
      rw [callbackField, made,
        identifier_of_lead _ '_' (by rw [String.toList_append, text]; rfl) (by decide) (by decide),
        identifier_of_lead _ '_' (by rw [text]; rfl) (by decide) (by decide), String.toList_append,
        word_append_iff _ _ (by rw [text]; simp) parts]

theorem backing_identifier (member : String) (property : Property)
    (named : isIdentifier property.name = true) (kept : property.KeptIn member)
    (spelled : isIdentifier member = true) :
    isIdentifier property.backing = true ↔ Role.backing.Sound property := by
  cases kept with
  | field single own => simp [Role.Sound, single, own, spelled]
  | command command held wraps made =>
      rw [made, Naming.backing_field_identifier property.name named]
      simp [Role.Sound, held]

theorem declared_name_iff (host : Host) (owner : Option DeclaredType) (member : String)
    (property : Property) (nullable : NullableMode)
    (accepted : Property.Accepted host owner member property) (spelled : isIdentifier member = true) :
    (∀ own raised, lines nullable ⟨property, own, raised⟩ = declaredLines nullable ⟨property, own, raised⟩) ∧
      (isIdentifier property.backing = true ↔ Role.backing.Sound property) ∧
      ∀ declaration ∈ declarations nullable property,
        (isIdentifier declaration.name = true ↔ declaration.role.Sound property) := by
  obtain ⟨named, _⟩ := Property.accepted_name host owner member property accepted
  have kept := Property.accepted_kept host owner member property accepted
  have backing := backing_identifier member property named kept spelled
  refine ⟨fun own raised => declared_lines nullable _, backing, ?_⟩
  intro declaration listed
  simp only [declarations, callbackDeclaration?, backingDeclaration?, factoryDeclaration?,
    List.mem_append, List.mem_singleton, Option.mem_toList, Option.map_eq_some_iff] at listed
  obtain ((⟨_, _, rfl⟩ | ⟨_, _, rfl⟩) | rfl) | ⟨_, _, rfl⟩ := listed
  · exact (Bool.eq_iff_iff.mp (callback_identifier member property named kept spelled)).trans backing
  · exact backing
  · simp [propertyDeclaration, Role.Sound, named]
  · exact factory_identifier property.name named

-- The field under a verbatim command is named without the mark, unlike the method that makes it.
theorem verbatim_backing_identifier :
    ∃ property, Property.Accepted Compilation.empty.host none "Raise" property ∧
      isIdentifier "Raise" = true ∧ isIdentifier property.backing = true ∧
      ∃ declaration ∈ declarations .disabled property,
        declaration.role = .factory ∧ isIdentifier declaration.name ≠ true := by
  have accepted : Property.Accepted Compilation.empty.host none "Raise" _ :=
    .method (Property.markedMethod "Raise" "void" [] [.text "@event"]) _ rfl
  have spelled : isIdentifier "Raise" = true := by decide
  obtain ⟨_, backing, declared⟩ := declared_name_iff _ _ _ _ .disabled accepted spelled
  refine ⟨_, accepted, spelled, backing.mpr (.inr (by decide)), _, .tail _ (.tail _ (.head _)), rfl, ?_⟩
  intro sound
  have unmarked := (declared _ (.tail _ (.tail _ (.head _)))).mp sound
  exact unmarked (by decide)

theorem declared_name_unsound :
    (∃ property, Property.Accepted Compilation.empty.host none "Raise" property ∧
      isIdentifier "Raise" = true ∧
      ∃ declaration ∈ declarations .disabled property,
        declaration.role = .factory ∧ isIdentifier declaration.name = false) ∧
    ∃ property, Property.Accepted Compilation.empty.host none "İnit" property ∧
      isIdentifier "İnit" = true ∧
      ∃ declaration ∈ declarations .disabled property,
        declaration.role = .backing ∧ isIdentifier declaration.name = false := by
  constructor
  · refine ⟨_, .method (Property.markedMethod "Raise" "void" [] [.text "@event"]) _ rfl, by decide, ?_⟩
    exact ⟨_, .tail _ (.tail _ (.head _)), rfl, by decide⟩
  · refine ⟨_, .method (Property.markedMethod "İnit" "void" [] []) _ rfl, by decide +kernel, ?_⟩
    exact ⟨_, .head _, rfl, by decide +kernel⟩

end PropertySource

end ObservableGen.Source
