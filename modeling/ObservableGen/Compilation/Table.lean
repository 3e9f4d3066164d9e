import ObservableGen.Compilation.DeclaredType
set_option autoImplicit false

/-!
A compilation: the types it declares, the texts that come with it, and its nullable mode.
-/
namespace ObservableGen

structure AdditionalText where
  path : String
  text : String
deriving DecidableEq, Repr, Inhabited

def fileName (path : String) : String :=
  Text.afterLast (fun c => c == '/' || c == '\\') path

namespace AdditionalText

def fileName (file : AdditionalText) : String :=
  ObservableGen.fileName file.path

def find? (files : List AdditionalText) (path : String) : Option AdditionalText :=
  files.find? fun file => file.fileName == ObservableGen.fileName path

end AdditionalText

structure Compilation where
  nullable : NullableMode
  types : List DeclaredType
  texts : List AdditionalText
  names_nodup : (types.map DeclaredType.name).Nodup
deriving Repr

namespace Compilation

def empty : Compilation :=
  ⟨.disabled, [], [], List.nodup_nil⟩

instance : Inhabited Compilation := ⟨empty⟩

-- A later declaration takes the place of an earlier one of its name.
def declare (compilation : Compilation) (type : DeclaredType) : Compilation where
  nullable := compilation.nullable
  types := type :: compilation.types.filter fun declared => declared.name != type.name
  texts := compilation.texts
  names_nodup := by
    rw [List.map_cons, List.nodup_cons]
    exact ⟨by simp, compilation.names_nodup.sublist (List.filter_sublist.map DeclaredType.name)⟩

def addText (compilation : Compilation) (file : AdditionalText) : Compilation :=
  { compilation with texts := compilation.texts ++ [file] }

def type? (compilation : Compilation) (name : TypeName) : Option DeclaredType :=
  compilation.types.find? fun declared => declared.name == name

theorem type_iff (compilation : Compilation) (name : TypeName) (type : DeclaredType) :
    compilation.type? name = some type ↔ type ∈ compilation.types ∧ type.name = name := by
  constructor
  · intro found
    exact ⟨List.mem_of_find?_eq_some found, by simpa using List.find?_some found⟩
  · rintro ⟨inside, rfl⟩
    obtain ⟨front, back, parts⟩ := List.append_of_mem inside
    have distinct := compilation.names_nodup
    rw [parts, List.map_append, List.map_cons, List.nodup_append] at distinct
    have before : ∀ other ∈ front, (other.name == type.name) = false := by
      intro other early
      simpa using distinct.2.2 other.name (List.mem_map_of_mem early) type.name List.mem_cons_self
    have none : front.find? (fun declared => declared.name == type.name) = none :=
      List.find?_eq_none.mpr fun other early => by simp [before other early]
    simp [type?, parts, List.find?_append, none]

theorem type_declared (compilation : Compilation) (type : DeclaredType) :
    (compilation.declare type).type? type.name = some type :=
  (type_iff _ _ _).mpr ⟨List.mem_cons_self, rfl⟩

theorem other_type_kept (compilation : Compilation) (type : DeclaredType) (name : TypeName)
    (other : name ≠ type.name) : (compilation.declare type).type? name = compilation.type? name := by
  rw [type?, declare, List.find?_cons_of_neg (by simpa using other.symm), List.find?_filter, type?]
  congr 1
  funext declared
  by_cases found : declared.name = name <;> simp [found, other]

end Compilation

end ObservableGen
