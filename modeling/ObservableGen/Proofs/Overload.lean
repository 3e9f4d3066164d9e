import ObservableGen.Callback
set_option autoImplicit false

/-!
Which overloads stand behind a callback. Main statement: the value is passed only to a declared method
that takes it, it is withheld only if nothing takes it or a declared method does without it, and the
answer depends on no order and on no member that cannot serve.
-/
namespace ObservableGen.Callback

-- A member that can serve as the callback, and whether it takes the value.
inductive Serves (host : Host) (name : String) (valueType : TypeUse) : Bool → Member → Prop
  | bare (method : MethodMember) (named : method.name = name) (void : method.returns.isVoid = true)
      (empty : method.parameters = []) : Serves host name valueType false (.method method)
  | taking (method : MethodMember) (parameter : Parameter) (named : method.name = name)
      (void : method.returns.isVoid = true) (single : method.parameters = [parameter])
      (fits : host.isAssignable valueType parameter.type = true) : Serves host name valueType true (.method method)

def Declares (host : Host) (name : String) (valueType : TypeUse) (type : DeclaredType) (takesValue : Bool) : Prop :=
  ∃ member ∈ type.members, Serves host name valueType takesValue member

section Shapes

variable (host : Host) (name : String) (valueType : TypeUse)

theorem serves_shape (takesValue : Bool) (member : Member) (serves : Serves host name valueType takesValue member) :
    member.name = name ∧ ∃ method, member.asMethod? = some method ∧ shape? host valueType method = some takesValue := by
  cases serves with
  | bare method named void empty => exact ⟨named, method, rfl, by simp [shape?, void, empty]⟩
  | taking method parameter named void single fits =>
      exact ⟨named, method, rfl, by simp [shape?, void, single, fits]⟩

theorem shape_serves (takesValue : Bool) (method : MethodMember) (named : method.name = name)
    (shaped : shape? host valueType method = some takesValue) :
    Serves host name valueType takesValue (.method method) := by
  unfold shape? at shaped
  by_cases void : method.returns.isVoid = true
  · rw [if_pos void] at shaped
    cases listed : method.parameters with
    | nil =>
        rw [listed] at shaped
        cases shaped
        exact .bare method named void listed
    | cons parameter rest =>
        rw [listed] at shaped
        cases rest with
        | nil =>
            dsimp only at shaped
            by_cases fits : host.isAssignable valueType parameter.type = true
            · rw [if_pos fits] at shaped
              cases shaped
              exact .taking method parameter named void listed fits
            · rw [if_neg fits] at shaped
              cases shaped
        | cons next rest => cases shaped
  · rw [if_neg void] at shaped
    cases shaped

theorem mem_shapes (type : DeclaredType) (takesValue : Bool) :
    takesValue ∈ shapes host (some type) name valueType ↔ Declares host name valueType type takesValue := by
  rw [shapes, List.mem_filterMap]
  constructor
  · rintro ⟨method, found, shaped⟩
    obtain ⟨member, listed, isMethod⟩ := List.mem_filterMap.mp found
    obtain ⟨inside, named⟩ := List.mem_filter.mp listed
    cases member with
    | field field => cases isMethod
    | property name type => cases isMethod
    | method own =>
        cases isMethod
        exact ⟨.method method, inside, shape_serves host name valueType takesValue method (eq_of_beq named) shaped⟩
  · rintro ⟨member, inside, serves⟩
    obtain ⟨named, method, isMethod, shaped⟩ := serves_shape host name valueType takesValue member serves
    have listed : member ∈ type.membersNamed name := List.mem_filter.mpr ⟨inside, by simp [named]⟩
    exact ⟨method, List.mem_filterMap.mpr ⟨member, listed, isMethod⟩, shaped⟩

end Shapes

-- One shape that takes the value is enough where that is preferred; else none may do without it.
theorem choose_iff (shapes : List Bool) (prefer : Option Bool) :
    choose shapes prefer = true ↔ true ∈ shapes ∧ (prefer = some true ∨ false ∉ shapes) := by
  cases shapes with
  | nil => simp [choose]
  | cons first rest =>
      cases rest with
      | nil => cases first <;> simp [choose]
      | cons second rest =>
          by_cases preferred : prefer = some true
          · simp [choose, preferred]
          · cases first <;> simp [choose, preferred]

theorem takes_value_iff (host : Host) (name : String) (valueType : TypeUse) (type : DeclaredType)
    (prefer : Option Bool) :
    (resolve host (some type) name valueType prefer).takesValue = true ↔
      Declares host name valueType type true ∧ (prefer = some true ∨ ¬ Declares host name valueType type false) := by
  rw [resolve, choose_iff, mem_shapes, mem_shapes]

-- What is declared beside the same overloads makes no difference.
theorem resolve_of_same_overloads (host : Host) (name : String) (valueType : TypeUse) (left right : DeclaredType)
    (same : ∀ takesValue, Declares host name valueType left takesValue ↔ Declares host name valueType right takesValue)
    (prefer : Option Bool) :
    resolve host (some left) name valueType prefer = resolve host (some right) name valueType prefer := by
  have answer : (resolve host (some left) name valueType prefer).takesValue
      = (resolve host (some right) name valueType prefer).takesValue := by
    rw [Bool.eq_iff_iff, takes_value_iff, takes_value_iff, same, same]
  exact congrArg (Callback.mk name) answer

theorem declares_of_perm (host : Host) (name : String) (valueType : TypeUse) (type other : DeclaredType)
    (extra : List Member) (listed : other.members.Perm (type.members ++ extra))
    (idle : ∀ member ∈ extra, ∀ takesValue, ¬ Serves host name valueType takesValue member) (takesValue : Bool) :
    Declares host name valueType other takesValue ↔ Declares host name valueType type takesValue := by
  constructor
  · rintro ⟨member, inside, serves⟩
    obtain own | added := List.mem_append.mp (listed.mem_iff.mp inside)
    · exact ⟨member, own, serves⟩
    · exact absurd serves (idle member added takesValue)
  · rintro ⟨member, inside, serves⟩
    exact ⟨member, listed.mem_iff.mpr (List.mem_append_left _ inside), serves⟩

theorem resolve_witnessed (host : Host) (name : String) (valueType : TypeUse) (type : DeclaredType) :
    let resolved := resolve host (some type) name valueType
    let declares := Declares host name valueType type
    (∀ prefer, (resolved prefer).name = name ∧
      ((resolved prefer).takesValue = true ↔ declares true ∧ (prefer = some true ∨ ¬ declares false)) ∧
      ((resolved prefer).takesValue = false → (∀ takesValue, ¬ declares takesValue) ∨ declares false)) ∧
    resolved (some false) = resolved none ∧
    (resolved (some true) = resolved none ∨
      (resolved none).takesValue = false ∧ (resolved (some true)).takesValue = true) ∧
    ∀ (other : DeclaredType) (extra : List Member), other.members.Perm (type.members ++ extra) →
      (∀ member ∈ extra, ∀ takesValue, ¬ Serves host name valueType takesValue member) →
      ∀ prefer, resolve host (some other) name valueType prefer = resolved prefer := by
  intro resolved declares
  have exact (prefer : Option Bool) := takes_value_iff host name valueType type prefer
  have determined (first second : Option Bool)
      (same : (resolved first).takesValue = (resolved second).takesValue) : resolved first = resolved second :=
    congrArg (Callback.mk name) same
  refine ⟨fun prefer => ⟨rfl, exact prefer, ?_⟩, ?_, ?_, ?_⟩
  · intro withheld
    by_cases plain : declares false
    · exact .inr plain
    · left
      intro takesValue
      cases takesValue with
      | false => exact plain
      | true =>
          intro taking
          have passed := (exact prefer).mpr ⟨taking, .inr plain⟩
          exact Bool.false_ne_true (withheld.symm.trans passed)
  · apply determined
    rw [Bool.eq_iff_iff, exact, exact]
    simp
  · by_cases same : (resolved (some true)).takesValue = (resolved none).takesValue
    · exact .inl (determined _ _ same)
    · right
      cases unasked : (resolved none).takesValue with
      | false => exact ⟨rfl, by simpa [unasked] using same⟩
      | true =>
          have kept := (exact (some true)).mpr ⟨((exact none).mp unasked).1, .inl rfl⟩
          exact absurd (kept.trans unasked.symm) same
  · intro other extra listed idle prefer
    exact resolve_of_same_overloads host name valueType other type
      (declares_of_perm host name valueType type other extra listed idle) prefer

-- Two overloads of a callback, and a method of the same name that gives an answer of its own.
def overload (returns : String) (parameters : List Parameter) : Member :=
  .method ⟨"OnChanged", ⟨returns, false⟩, parameters, [], none⟩

def declaring (members : List Member) : DeclaredType :=
  ⟨some "App", [⟨"class", "Main", []⟩], none, [], members, []⟩

theorem preferred_overload_taken :
    let host := Compilation.empty.host
    let bare := overload "void" []
    let taking := overload "void" [⟨"value", ⟨"object", false⟩⟩]
    let asking := overload "bool" []
    let listed := [asking, taking, bare]
    let resolved := resolve host (some (declaring listed)) "OnChanged" ⟨"string", false⟩
    listed.Perm ([bare, taking] ++ [asking]) ∧
      (∀ takesValue, ¬ Serves host "OnChanged" ⟨"string", false⟩ takesValue asking) ∧
      (resolved none).takesValue = false ∧ (resolved (some true)).takesValue = true ∧
      Declares host "OnChanged" ⟨"string", false⟩ (declaring [bare, taking]) true := by
  intro host bare taking asking listed resolved
  have order : listed.Perm ([bare, taking] ++ [asking]) := List.reverse_perm [bare, taking, asking]
  have idle (takesValue : Bool) : ¬ Serves host "OnChanged" ⟨"string", false⟩ takesValue asking := by
    intro serves
    obtain ⟨_, method, same, shaped⟩ := serves_shape _ _ _ _ _ serves
    cases same
    cases shaped
  obtain ⟨exact, _, _, kept⟩ := resolve_witnessed host "OnChanged" ⟨"string", false⟩ (declaring [bare, taking])
  have same := kept (declaring listed) [asking] order (by simpa using idle)
  have preferred : (resolved (some true)).takesValue = true := by decide
  have shown := (exact (some true)).2.1.mp (same (some true) ▸ preferred)
  exact ⟨order, idle, by decide, preferred, shown.1⟩

end ObservableGen.Callback
