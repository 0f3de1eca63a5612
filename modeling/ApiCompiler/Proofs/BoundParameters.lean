import ApiCompiler.Proofs.ServedEndpoints
import ApiCompiler.Proofs.StringLiteral

/-!
What a binder reads is what the document describes. The two are made apart from each other, one from
the other's data at no point, but they list the same parameters in the same order, and say the same
of each.
-/

set_option autoImplicit false

namespace ApiCompiler

open OpenApi (Parameter parameterOf parametersOf)
open RoutesModule (BindingContext EndpointContext)

/-- The locations and tags of what an endpoint binds: path, then query, then header. -/
def Endpoint.boundTags (endpoint : Endpoint) : List (Location × String) :=
  match endpoint.bindings with
  | none => []
  | some bindings =>
      bindings.path.map (fun binding => (Location.path, binding.tag))
        ++ bindings.query.map (fun binding => (Location.query, binding.tag))
        ++ bindings.header.map (fun binding => (Location.header, binding.tag))

/-- The schema of one value: the schema of the items, where several are allowed. -/
def OpenApi.Parameter.valueSchema (parameter : Parameter) : Schema :=
  parameter.schema.items.getD parameter.schema

/-- The binder looks up what the parameter documents, and parses it as that. -/
structure RoutesModule.BindingContext.Agrees (context : BindingContext) (parameter : Parameter) :
    Prop where
  tag : Text.readLiteral context.tagLiteral = some parameter.name
  source : ∀ location : Location,
    context.source = location.variant ↔ parameter.location = location
  required : context.helper ∈ [.requiredOne, .requiredMany] ↔ parameter.required = true
  many : context.helper ∈ [.requiredMany, .optionalMany] ↔ parameter.schema.type = some "array"
  parser : ∃ kind : Kind, context.parserName = kind.parserName ∧
    parameter.valueSchema = Schema.primitive kind

namespace RoutesModule

variable {manifest : Manifest} {endpoint : Endpoint} {location : Location} {binding : FieldBinding}

theorem parameters_of_located :
    parametersOf manifest endpoint = (EndpointContext.bindingsOf endpoint).located.mapM
      fun entry => parameterOf manifest endpoint entry.1 entry.2 := by
  unfold parametersOf EndpointContext.bindingsOf
  cases endpoint.activeBindings with
  | none => rfl
  | some bindings => rfl

/-- Bindings that bind nothing count as none, and bind as much. -/
theorem bindings_of_eq : EndpointContext.bindingsOf endpoint = endpoint.bindings.getD .empty := by
  unfold EndpointContext.bindingsOf
  cases active : endpoint.activeBindings with
  | some bindings => rw [(Endpoint.active_bindings_iff.mp active).1]
  | none =>
      cases present : endpoint.bindings with
      | none => rfl
      | some bindings =>
          have bound : bindings = .empty := by
            by_contra binds
            rw [Endpoint.active_bindings_iff.mpr ⟨present, binds⟩] at active
            cases active
          rw [bound, Option.getD_none, Option.getD_some]

theorem located_tags :
    (EndpointContext.bindingsOf endpoint).located.map (fun entry => (entry.1, entry.2.tag)) =
      endpoint.boundTags := by
  rw [bindings_of_eq]
  unfold Endpoint.boundTags
  cases endpoint.bindings with
  | none => rfl
  | some bindings => simp [Bindings.located, Function.comp_def]

theorem parameters_listed {parameters : List Parameter}
    (made : parametersOf manifest endpoint = .ok parameters) :
    parameters.map (fun parameter => (parameter.location, parameter.name)) =
      endpoint.boundTags := by
  rw [parameters_of_located] at made
  rw [← located_tags]
  apply map_of_forall₂ (map_each_ok_iff.mp made)
  intro entry parameter own
  obtain ⟨kind, _, same⟩ := bind_ok_iff.mp own
  cases same
  rfl

end RoutesModule

end ApiCompiler
