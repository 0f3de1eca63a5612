import ApiCompiler.Proofs.ServedEndpoints

/-!
Paths up to the names of their parameters. Two paths with one pattern match the same requests, so
only one of them can be served. A valid manifest keeps endpoints of one pattern apart by their
methods where the names agree, and not at all where they differ.
-/

set_option autoImplicit false

namespace ApiCompiler

namespace PathTemplate

/-- A text without what stands between its braces. -/
def withoutNames : (inside : Bool) → List Char → List Char
  | _, [] => []
  | false, character :: rest => character :: withoutNames (decide (character = '{')) rest
  | true, character :: rest =>
      if character = '}' then character :: withoutNames false rest else withoutNames true rest

def pattern (path : String) : String := String.ofList (withoutNames false path.toList)

/-- What a piece of a template is in the pattern. -/
def Piece.pattern : Piece → List Char
  | plain character => [character]
  | parameter _ => ['{', '}']

theorem without_names_parameter {name rest : List Char}
    (characters : ∀ character ∈ name, isNameChar character) :
    withoutNames true (name ++ '}' :: rest) = '}' :: withoutNames false rest := by
  induction name with
  | nil => simp [withoutNames]
  | cons character name induction =>
      obtain ⟨nameChar, others⟩ := List.forall_mem_cons.mp characters
      have notClosing : character ≠ '}' := by
        intro closing
        subst closing
        simp [isNameChar] at nameChar
      rw [List.cons_append, withoutNames, if_neg notClosing]
      exact induction others

theorem without_names_of_spells {pieces : List Piece} {text : List Char}
    (spells : Spells pieces text) : withoutNames false text = pieces.flatMap Piece.pattern := by
  obtain ⟨valid, rfl⟩ := spells
  induction pieces with
  | nil => rfl
  | cons piece pieces induction =>
      obtain ⟨first, others⟩ := List.forall_mem_cons.mp valid
      rw [List.flatMap_cons, List.flatMap_cons, ← induction others]
      cases piece with
      | plain character => simp [Piece.text, Piece.pattern, withoutNames, first.1]
      | parameter name => simp [Piece.text, Piece.pattern, withoutNames, without_names_parameter first.2]

/-- A pattern shows of each piece whether it is a parameter, and which character it is if not. -/
theorem same_shape_of_pattern {pieces pieces' : List Piece}
    (valid : ∀ piece ∈ pieces, piece.Valid) (valid' : ∀ piece ∈ pieces', piece.Valid)
    (same : pieces.flatMap Piece.pattern = pieces'.flatMap Piece.pattern) :
    List.Forall₂ (fun piece piece' => piece.pattern = piece'.pattern) pieces pieces' := by
  induction pieces generalizing pieces' with
  | nil =>
      cases pieces' with
      | nil => exact .nil
      | cons piece' rest' => cases piece' <;> cases same
  | cons piece rest induction =>
      obtain ⟨first, others⟩ := List.forall_mem_cons.mp valid
      cases pieces' with
      | nil => cases piece <;> cases same
      | cons piece' rest' =>
          obtain ⟨first', others'⟩ := List.forall_mem_cons.mp valid'
          rw [List.flatMap_cons, List.flatMap_cons] at same
          have heads : piece.pattern = piece'.pattern := by
            cases piece with
            | plain character =>
                cases piece' with
                | plain character' => exact congrArg (·.take 1) same
                | parameter name' => exact absurd (List.cons.inj same).1 first.1
            | parameter name =>
                cases piece' with
                | plain character' => exact absurd (List.cons.inj same).1.symm first'.1
                | parameter name' => rfl
          rw [heads, List.append_cancel_left_eq] at same
          exact .cons heads (induction others others' same)

theorem pieces_of_pattern_of_names {pieces pieces' : List Piece}
    (each : List.Forall₂ (fun piece piece' : Piece => piece.pattern = piece'.pattern) pieces pieces')
    (same : names pieces = names pieces') : pieces = pieces' := by
  induction each with
  | nil => rfl
  | @cons piece piece' rest rest' heads _ induction =>
      cases piece with
      | plain character =>
          cases piece' with
          | plain character' =>
              cases heads
              rw [induction same]
          | parameter name' => cases heads
      | parameter name =>
          cases piece' with
          | plain character' => cases heads
          | parameter name' =>
              obtain ⟨rfl, others⟩ := List.cons.inj same
              rw [induction others]

theorem names_length_of_pattern {pieces pieces' : List Piece}
    (each : List.Forall₂ (fun piece piece' : Piece => piece.pattern = piece'.pattern)
      pieces pieces') : (names pieces).length = (names pieces').length := by
  induction each with
  | nil => rfl
  | @cons piece piece' rest rest' heads _ induction =>
      cases piece with
      | plain character =>
          cases piece' with
          | plain character' => exact induction
          | parameter name' => cases heads
      | parameter name =>
          cases piece' with
          | plain character' => cases heads
          | parameter name' => exact congrArg (· + 1) induction

variable {path path' : String} {pieces pieces' : List Piece}

theorem shapes_of_pattern (spells : Spells pieces path.toList)
    (spells' : Spells pieces' path'.toList) (same : pattern path = pattern path') :
    List.Forall₂ (fun piece piece' : Piece => piece.pattern = piece'.pattern) pieces pieces' := by
  apply same_shape_of_pattern spells.1 spells'.1
  rw [← without_names_of_spells spells, ← without_names_of_spells spells']
  exact String.ofList_injective same

/-- A path is known by its pattern and the names of its parameters. -/
theorem path_of_pattern_of_parameters (spells : Spells pieces path.toList)
    (spells' : Spells pieces' path'.toList) (same : pattern path = pattern path')
    (named : parameters path = parameters path') : path = path' := by
  have shapes := shapes_of_pattern spells spells' same
  rw [parameters_of_spells spells, parameters_of_spells spells'] at named
  have names := List.map_injective_iff.mpr (fun _ _ => String.ofList_injective) named
  apply String.toList_inj.mp
  rw [spells.2, spells'.2, pieces_of_pattern_of_names shapes names]

theorem parameters_length_of_pattern (spells : Spells pieces path.toList)
    (spells' : Spells pieces' path'.toList) (same : pattern path = pattern path') :
    (parameters path).length = (parameters path').length := by
  rw [parameters_of_spells spells, parameters_of_spells spells', List.length_map, List.length_map]
  exact names_length_of_pattern (shapes_of_pattern spells spells' same)

end PathTemplate

namespace Manifest

open PathTemplate (pattern parameters)

variable {manifest : Manifest}

theorem path_of_endpoint_pattern (wellFormed : manifest.WellFormed) {first second : Endpoint}
    (listed : first ∈ manifest.endpoints) (listed' : second ∈ manifest.endpoints)
    (same : pattern first.path = pattern second.path) :
    (parameters first.path).length = (parameters second.path).length ∧
      (parameters first.path = parameters second.path → first.path = second.path) := by
  obtain ⟨pieces, spells, _⟩ := (wellFormed.endpoints first listed).template
  obtain ⟨pieces', spells', _⟩ := (wellFormed.endpoints second listed').template
  exact ⟨PathTemplate.parameters_length_of_pattern spells spells' same,
    PathTemplate.path_of_pattern_of_parameters spells spells' same⟩

/-- Of the endpoints of an accepted manifest, two have one pattern only if they differ in method, or
else in the names of their parameters; and no two paths clash just when the names agree wherever the
patterns do. -/
theorem clashes_only_by_names (validated : manifest.validate = .ok ()) :
    (manifest.endpoints.Pairwise fun first second => pattern first.path = pattern second.path →
      first.path = second.path ∧ first.method ≠ second.method ∨
        parameters first.path ≠ parameters second.path ∧
          (parameters first.path).length = (parameters second.path).length) ∧
    ((∀ first ∈ manifest.endpoints, ∀ second ∈ manifest.endpoints,
        pattern first.path = pattern second.path → first.path = second.path) ↔
      ∀ first ∈ manifest.endpoints, ∀ second ∈ manifest.endpoints,
        pattern first.path = pattern second.path →
          parameters first.path = parameters second.path) := by
  have wellFormed := well_formed_of_validate validated
  constructor
  · have distinct := List.pairwise_map.mp wellFormed.routes_distinct
    apply distinct.imp_of_mem
    intro first second listed listed' apart same
    obtain ⟨count, path⟩ := path_of_endpoint_pattern wellFormed listed listed' same
    by_cases named : parameters first.path = parameters second.path
    · have samePath := path named
      refine .inl ⟨samePath, ?_⟩
      intro sameMethod
      exact apart (congrArg₂ Prod.mk sameMethod samePath)
    · exact .inr ⟨named, count⟩
  · constructor
    · intro apart first listed second listed' same
      rw [apart first listed second listed' same]
    · intro agree first listed second listed' same
      exact (path_of_endpoint_pattern wellFormed listed listed' same).2
        (agree first listed second listed' same)

theorem order_desk_patterns : orderDesk.validate = .ok () ∧
    (orderDesk.endpoints.Pairwise fun first second => pattern first.path = pattern second.path →
      first.path = second.path ∧ first.method ≠ second.method ∨
        parameters first.path ≠ parameters second.path ∧
          (parameters first.path).length = (parameters second.path).length) ∧
    ((∀ first ∈ orderDesk.endpoints, ∀ second ∈ orderDesk.endpoints,
        pattern first.path = pattern second.path → first.path = second.path) ↔
      ∀ first ∈ orderDesk.endpoints, ∀ second ∈ orderDesk.endpoints,
        pattern first.path = pattern second.path →
          parameters first.path = parameters second.path) :=
  ⟨order_desk_valid, clashes_only_by_names order_desk_valid⟩

/-- Two endpoints whose paths differ in the name of a parameter only. -/
def twoNames : Manifest := { empty with
  endpoints := [
    ⟨.get, "/pets/\x7bid\x7d", ⟨"crate::pets", "find"⟩, .reqNoResp, some "Key", none,
      some ⟨false, [⟨"Id", "id", "int64", false, false, none⟩], [], []⟩, []⟩,
    ⟨.delete, "/pets/\x7bpet\x7d", ⟨"crate::pets", "remove"⟩, .reqNoResp, some "Key", none,
      some ⟨false, [⟨"Id", "pet", "int64", false, false, none⟩], [], []⟩, []⟩]
  types := .singleton "Key" ⟨"", .struct, [⟨"Id", "", "int64", true, none⟩], none, none⟩ }

theorem patterns_not_always_apart : ¬∀ manifest : Manifest, manifest.validate = .ok () →
    ∀ first ∈ manifest.endpoints, ∀ second ∈ manifest.endpoints,
      pattern first.path = pattern second.path → first.path = second.path := by
  intro apart
  have validated : twoNames.validate = .ok () := by cbv
  have same := apart twoNames validated _ List.mem_cons_self _
    (List.mem_cons_of_mem _ List.mem_cons_self) (by decide)
  exact absurd same (by decide)

end Manifest

end ApiCompiler
