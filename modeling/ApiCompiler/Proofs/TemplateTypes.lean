import ApiCompiler.Template.Library
import ApiCompiler.Proofs.Checks

/-!
Types for the data of templates. A template that checks against the types of its variables is
filled without a fault, whatever the data of these types are.
-/

set_option autoImplicit false

namespace ApiCompiler.Template

open Json (Value)

inductive DataType
  | any
  | text
  | list (item : DataType)
  | record (members : List (String × DataType))

mutual

inductive HasType : Value → DataType → Prop
  | any (value : Value) : HasType value .any
  | text (words : String) : HasType (.string words) .text
  | list {items : List Value} {item : DataType} (each : ∀ value ∈ items, HasType value item) :
      HasType (.array items) (.list item)
  | record {members : List (String × Value)} {types : List (String × DataType)}
      (each : HaveTypes members types) : HasType (.object members) (.record types)

/-- The members have their types one by one. -/
inductive HaveTypes : List (String × Value) → List (String × DataType) → Prop
  | nil : HaveTypes [] []
  | cons {name : String} {value : Value} {type : DataType} {members : List (String × Value)}
      {types : List (String × DataType)} (first : HasType value type)
      (others : HaveTypes members types) :
      HaveTypes ((name, value) :: members) ((name, type) :: types)

end

/-- The types of the variables that are known by a name, innermost first. -/
abbrev Typing := List (String × DataType)

def DataType.member : DataType → String → Option DataType
  | .record members, name => members.lookup name
  | _, _ => none

def typeAt (typing : Typing) : List String → Option DataType
  | [] => none
  | name :: rest => do
      let type ← typing.lookup name
      rest.foldlM DataType.member type

def Filter.accepts : Filter → DataType → Bool
  | .plain, _ => true
  | .escape, .text => true
  | .join _, .list _ => true
  | _, _ => false

/-- A variable that is compared has to exist; one that is only asked for does not. -/
def Condition.checks (typing : Typing) : Condition → Bool
  | .holds _ | .fails _ => true
  | .equals path _ => (typeAt typing path).isSome

mutual

def Part.checks (typing : Typing) : Part → Bool
  | .text _ => true
  | .print path filter => (typeAt typing path).any filter.accepts
  | .choose condition body otherwise =>
      condition.checks typing && checksAll typing body && checksAll typing otherwise
  | .each name path body =>
      match typeAt typing path with
      | some (.list item) => checksAll ((name, item) :: typing) body
      | _ => false

def checksAll (typing : Typing) : List Part → Bool
  | [] => true
  | part :: rest => part.checks typing && checksAll typing rest

end

def Admits (typing : Typing) (scope : Scope) : Prop :=
  ∀ name type, typing.lookup name = some type →
    ∃ value, Value.find name scope = some value ∧ HasType value type

theorem Admits.cons {typing : Typing} {scope : Scope} {name : String} {value : Value}
    {type : DataType} (typed : HasType value type) (admits : Admits typing scope) :
    Admits ((name, type) :: typing) ((name, value) :: scope) := by
  intro other otherType known
  rw [List.lookup_cons] at known
  by_cases same : other = name
  · subst same
    simp only [beq_self_eq_true, Option.some.injEq] at known
    subst known
    exact ⟨value, by simp [Value.find], typed⟩
  · rw [beq_eq_false_iff_ne.mpr same] at known
    obtain ⟨found, lookup, typed⟩ := admits other otherType known
    exact ⟨found, by rwa [Value.find, if_neg (Ne.symm same)], typed⟩

theorem admits_of_have_types {members : List (String × Value)} {types : List (String × DataType)}
    (each : HaveTypes members types) : Admits types members := by
  induction members generalizing types with
  | nil =>
      cases each
      intro name type known
      cases known
  | cons head rest induction =>
      cases each with
      | cons first others => exact (induction others).cons first

theorem members_have_types {names : List String} {value : Value} {type final : DataType}
    (typed : HasType value type) (known : names.foldlM DataType.member type = some final) :
    ∃ found, names.foldlM member value = some found ∧ HasType found final := by
  induction names generalizing value type with
  | nil =>
      cases known
      exact ⟨value, rfl, typed⟩
  | cons name rest induction =>
      rw [List.foldlM_cons, Option.bind_eq_bind, Option.bind_eq_some_iff] at known
      obtain ⟨next, step, known⟩ := known
      cases typed with
      | any value => cases step
      | text words => cases step
      | list each => cases step
      | record each =>
          obtain ⟨part, lookup, partTyped⟩ := admits_of_have_types each name next step
          obtain ⟨found, onward, foundTyped⟩ := induction partTyped known
          refine ⟨found, ?_, foundTyped⟩
          rw [List.foldlM_cons, member, lookup]
          exact onward

theorem find_of_type_at {typing : Typing} {scope : Scope} {path : List String} {type : DataType}
    (admits : Admits typing scope) (known : typeAt typing path = some type) :
    ∃ value, find? scope path = some value ∧ HasType value type := by
  cases path with
  | nil => cases known
  | cons name rest =>
      rw [typeAt, Option.bind_eq_bind, Option.bind_eq_some_iff] at known
      obtain ⟨first, listed, known⟩ := known
      obtain ⟨value, lookup, typed⟩ := admits name first listed
      obtain ⟨found, onward, foundTyped⟩ := members_have_types typed known
      refine ⟨found, ?_, foundTyped⟩
      rw [find?, lookup]
      exact onward

theorem filter_succeeds {filter : Filter} {type : DataType} {value : Value} (path : List String)
    (accepts : filter.accepts type = true) (typed : HasType value type) :
    ∃ text, filter.apply path value = .ok text := by
  cases filter with
  | plain => exact ⟨_, rfl⟩
  | escape =>
      cases typed with
      | text words => exact ⟨_, rfl⟩
      | any value => cases accepts
      | list each => cases accepts
      | record each => cases accepts
  | join separator =>
      cases typed with
      | list each => exact ⟨_, rfl⟩
      | any value => cases accepts
      | text words => cases accepts
      | record each => cases accepts

theorem decide_succeeds {typing : Typing} {scope : Scope} {condition : Condition}
    (admits : Admits typing scope) (checks : condition.checks typing = true) :
    ∃ answer, condition.decide scope = .ok answer := by
  cases condition with
  | holds path => exact ⟨_, rfl⟩
  | fails path => exact ⟨_, rfl⟩
  | equals path text =>
      obtain ⟨type, known⟩ := Option.isSome_iff_exists.mp checks
      obtain ⟨value, lookup, _⟩ := find_of_type_at admits known
      simp only [Condition.decide, find, lookup, bind, Except.bind]
      cases value <;> exact ⟨_, rfl⟩

mutual

theorem Part.render_succeeds {typing : Typing} {scope : Scope} (admits : Admits typing scope)
    (part : Part) (checks : part.checks typing = true) : ∃ text, part.render scope = .ok text := by
  cases part with
  | text lines => exact ⟨_, by rw [Part.render]⟩
  | print path filter =>
      rw [Part.checks, Option.any_eq_true] at checks
      obtain ⟨type, known, accepts⟩ := checks
      obtain ⟨value, lookup, typed⟩ := find_of_type_at admits known
      obtain ⟨text, applied⟩ := filter_succeeds path accepts typed
      refine ⟨text, ?_⟩
      simp only [Part.render, find, lookup]
      exact applied
  | choose condition body otherwise =>
      rw [Part.checks, Bool.and_eq_true, Bool.and_eq_true] at checks
      obtain ⟨⟨decides, bodyChecks⟩, otherwiseChecks⟩ := checks
      obtain ⟨answer, decided⟩ := decide_succeeds admits decides
      obtain ⟨first, rendered⟩ := render_all_succeeds admits body bodyChecks
      obtain ⟨second, rendered'⟩ := render_all_succeeds admits otherwise otherwiseChecks
      rw [Part.render, decided]
      cases answer with
      | true => exact ⟨first, rendered⟩
      | false => exact ⟨second, rendered'⟩
  | each name path body =>
      rw [Part.checks] at checks
      split at checks
      · rename_i item known
        obtain ⟨value, lookup, typed⟩ := find_of_type_at admits known
        cases typed with
        | @list items _ each =>
            have succeeds : ∀ value ∈ items,
                ∃ text, renderAll ((name, value) :: scope) body = .ok text := fun value listed =>
              render_all_succeeds (admits.cons (each value listed)) body checks
            obtain ⟨texts, rendered⟩ := map_each_succeeds succeeds
            refine ⟨String.join texts, ?_⟩
            simp only [Part.render, find, lookup, elements, bind, Except.bind]
            rw [rendered]
            rfl
      · cases checks
  termination_by structural part

theorem render_all_succeeds {typing : Typing} {scope : Scope} (admits : Admits typing scope)
    (parts : List Part) (checks : checksAll typing parts = true) :
    ∃ text, renderAll scope parts = .ok text := by
  cases parts with
  | nil => exact ⟨_, by rw [renderAll]⟩
  | cons part rest =>
      rw [checksAll, Bool.and_eq_true] at checks
      obtain ⟨first, rendered⟩ := part.render_succeeds admits checks.1
      obtain ⟨others, rendered'⟩ := render_all_succeeds admits rest checks.2
      refine ⟨first ++ others, ?_⟩
      rw [renderAll, rendered]
      simp only [bind, Except.bind, rendered']
      rfl
  termination_by structural parts

end

theorem fill_succeeds {name : String} {parts : List Part} {typing : Typing}
    {members : List (String × Value)} (known : library.lookup name = some parts)
    (checks : checksAll typing parts = true) (typed : HaveTypes members typing) :
    ∃ text, fill name (.object members) = .ok text := by
  obtain ⟨text, rendered⟩ := render_all_succeeds (admits_of_have_types typed) parts checks
  exact ⟨text, by simp only [fill, known, rendered]⟩

end ApiCompiler.Template
