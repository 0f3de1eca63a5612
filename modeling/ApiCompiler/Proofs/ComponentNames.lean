import ApiCompiler.Names.BuildContext
import ApiCompiler.Proofs.NameRegistry

/-!
The names of schema components. A type keeps the name that it first got; different types have
different names, and none has a name that was kept away from types.
-/

set_option autoImplicit false

namespace ApiCompiler.ComponentNames

variable {names : ComponentNames} {reserved : List String} {id : String}

/-- What holds of the names given out while some names are reserved. -/
structure Proper (reserved : List String) (names : ComponentNames) : Prop where
  taken : ∀ id name, names.lookup id = some name → name ∈ names.registry.taken
  injective : ∀ id other name, names.lookup id = some name → names.lookup other = some name →
    id = other
  reserved_taken : reserved ⊆ names.registry.taken
  reserved_free : ∀ id name, names.lookup id = some name → name ∉ reserved

theorem proper_of_reserved (name : String) : (empty.reserve name).Proper [name] := by
  refine ⟨?_, ?_, ?_, ?_⟩
  · intro id given known
    cases known
  · intro id other given known
    cases known
  · intro listed member
    rw [List.mem_singleton.mp member]
    exact NameRegistry.mem_reserve_iff.mpr (.inl rfl)
  · intro id given known
    cases known

theorem name_of_known {name : String} (known : names.lookup id = some name) :
    names.nameOf id = (name, names) := by
  rw [nameOf, known]

/-- The name that a type without a name gets. -/
def freshName (names : ComponentNames) (id : String) : String :=
  names.registry.freeName (componentBase id)

/-- The names after a type without a name has got one. -/
def withFresh (names : ComponentNames) (id : String) : ComponentNames :=
  ⟨(id, names.freshName id) :: names.assigned, names.registry.reserve (names.freshName id)⟩

theorem name_of_fresh (fresh : names.lookup id = none) :
    names.nameOf id = (names.freshName id, names.withFresh id) := by
  rw [nameOf, fresh]
  rfl

theorem lookup_fresh_self (names : ComponentNames) (id : String) :
    (names.withFresh id).lookup id = some (names.freshName id) := by
  simp [lookup, withFresh]

theorem lookup_fresh_other {other : String} (different : other ≠ id) :
    (names.withFresh id).lookup other = names.lookup other := by
  rw [lookup, withFresh, List.lookup_cons, beq_eq_false_iff_ne.mpr different]
  rfl

theorem Proper.fresh_name_unused (proper : names.Proper reserved) {other name : String}
    (known : names.lookup other = some name) : name ≠ names.freshName id := by
  intro same
  subst same
  exact names.registry.free_name_not_taken _ (proper.taken other _ known)

theorem Proper.with_fresh (proper : names.Proper reserved) (id : String) :
    (names.withFresh id).Proper reserved := by
  have split : ∀ other name, (names.withFresh id).lookup other = some name →
      (other = id ∧ name = names.freshName id) ∨ (other ≠ id ∧ names.lookup other = some name) := by
    intro other name known
    by_cases same : other = id
    · subst same
      rw [lookup_fresh_self] at known
      exact .inl ⟨rfl, (Option.some.inj known).symm⟩
    · rw [lookup_fresh_other same] at known
      exact .inr ⟨same, known⟩
  refine ⟨?_, ?_, ?_, ?_⟩
  · intro other name known
    apply NameRegistry.mem_reserve_iff.mpr
    rcases split other name known with ⟨_, rfl⟩ | ⟨_, earlier⟩
    · exact .inl rfl
    · exact .inr (proper.taken other name earlier)
  · intro first second name known known'
    rcases split first name known with ⟨rfl, rfl⟩ | ⟨_, earlier⟩
    · rcases split second _ known' with ⟨same, _⟩ | ⟨_, earlier⟩
      · exact same.symm
      · exact absurd rfl (proper.fresh_name_unused earlier)
    · rcases split second name known' with ⟨_, rfl⟩ | ⟨_, earlier'⟩
      · exact absurd rfl (proper.fresh_name_unused earlier)
      · exact proper.injective first second name earlier earlier'
  · intro name listed
    exact NameRegistry.mem_reserve_iff.mpr (.inr (proper.reserved_taken listed))
  · intro other name known listed
    rcases split other name known with ⟨_, rfl⟩ | ⟨_, earlier⟩
    · exact names.registry.free_name_not_taken _ (proper.reserved_taken listed)
    · exact proper.reserved_free other name earlier listed

/-! ### Runs of calls -/

/-- What changes the names of components; looking one up does not. -/
inductive Call
  | reserve (name : String)
  | nameOf (typeId : String)

def call (names : ComponentNames) : Call → ComponentNames
  | .reserve name => names.reserve name
  | .nameOf typeId => (names.nameOf typeId).2

def afterCalls (names : ComponentNames) (calls : List Call) : ComponentNames :=
  calls.foldl call names

/-- Each name that is given out is the one of its type's base in some registry. -/
def Derived (names : ComponentNames) : Prop :=
  ∀ id name, names.lookup id = some name →
    ∃ registry : NameRegistry, name = registry.freeName (componentBase id)

theorem Derived.with_fresh (derived : names.Derived) (id : String) :
    (names.withFresh id).Derived := by
  intro other name known
  by_cases same : other = id
  · subst same
    rw [lookup_fresh_self] at known
    exact ⟨names.registry, (Option.some.inj known).symm⟩
  · rw [lookup_fresh_other same] at known
    exact derived other name known

theorem Derived.call (derived : names.Derived) (request : Call) : (names.call request).Derived := by
  cases request with
  | reserve name => exact derived
  | nameOf id =>
      cases known : names.lookup id with
      | some name =>
          rw [ComponentNames.call, name_of_known known]
          exact derived
      | none =>
          rw [ComponentNames.call, name_of_fresh known]
          exact derived.with_fresh id

theorem Derived.after_calls (derived : names.Derived) (calls : List Call) :
    (names.afterCalls calls).Derived := by
  induction calls generalizing names with
  | nil => exact derived
  | cons request rest induction => exact induction (derived.call request)

theorem Derived.name_of (derived : names.Derived) (id : String) :
    ∃ registry : NameRegistry, (names.nameOf id).1 = registry.freeName (componentBase id) := by
  cases known : names.lookup id with
  | some name =>
      rw [name_of_known known]
      exact derived id name known
  | none =>
      rw [name_of_fresh known]
      exact ⟨names.registry, rfl⟩

end ApiCompiler.ComponentNames
