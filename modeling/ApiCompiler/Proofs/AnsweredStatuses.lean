import ApiCompiler.Proofs.ResponseMerge
import ApiCompiler.Proofs.ServedEndpoints
import ApiCompiler.Proofs.TemplateText

/-!
What a dispatch function may answer by itself is documented, whatever its middlewares declare: the
answer of success with its body, the answer to a request that cannot be bound, and the answer to a
fault of the handler. A request body is documented just where it is read.
-/

set_option autoImplicit false

namespace ApiCompiler

open OpenApi (Operation Response RequestBody jsonContent)
open RoutesModule (EndpointContext)
open Template (SuccessArm)

/-- The status that a dispatch function writes when its handler succeeds. -/
def Template.SuccessArm.status : SuccessArm → UInt16
  | noContent => 204
  | guardedJson => 200
  | json => 200

/-- The arm that the dispatch function of an endpoint has. -/
def RoutesModule.EndpointContext.successArm (context : EndpointContext) : SuccessArm :=
  if context.hasResponse then if context.respIsSlice then .guardedJson else .json else .noContent

/-- The built-in response documents what an arm answers. -/
inductive OpenApi.Response.Documents : SuccessArm → Response → Prop
  | noContent : Response.Documents .noContent (.plain "No content")
  | guardedJson {schema : Schema} (isArray : schema.type = some "array") :
      Response.Documents .guardedJson (.json "Successful response" schema)
  | json {schema : Schema} (notArray : schema.type ≠ some "array") :
      Response.Documents .json (.json "Successful response" schema)

/-- The request body and the built-in responses of an operation are those of the functions that the
module has for its endpoint. -/
structure OpenApi.Operation.Answers (document : OpenApi.Document) (endpoint : Endpoint)
    (context : EndpointContext) (operation : Operation) : Prop where
  body_iff : operation.requestBody.isSome ↔ context.hasJsonBody
  body_bound : context.hasJsonBody → context.bindFunction.isSome
  body_component : ∀ body, operation.requestBody = some body → ∃ name object,
    body.content = jsonContent (.component name) ∧ document.schemas.get? name = some object ∧
      object.type = some "object"
  arm_text : ∀ scope, Template.successArm.render (("e", context.toJson) :: scope) =
    .ok ("\n".intercalate context.successArm.lines)
  arm_status : context.successArm.status = if endpoint.shape.hasResponse then 200 else 204
  success : ∃ response, operation.responses.get? context.successArm.status = some response ∧
    response.Documents context.successArm
  bind_failure : context.bindFunction.isSome →
    operation.responses.get? 400 = some (.error "Invalid request")
  handler_failure : operation.responses.get? 500 = some (.error "Internal server error")

namespace Template

theorem success_arm_text (context : EndpointContext) (scope : Scope) :
    successArm.render (("e", context.toJson) :: scope) =
      .ok ("\n".intercalate context.successArm.lines) := by
  have silent : (Condition.fails ["e", "has_response"]).decide (("e", context.toJson) :: scope) =
      .ok !context.hasResponse := rfl
  have guarded : (Condition.holds ["e", "resp_is_slice"]).decide (("e", context.toJson) :: scope) =
      .ok context.respIsSlice := rfl
  have arm : ∀ lines, renderAll (("e", context.toJson) :: scope) [.text lines] =
      .ok ("\n".intercalate lines) := by
    intro lines
    rw [render_all_single, Part.render]
  rw [successArm, render_choose silent, EndpointContext.successArm]
  cases context.hasResponse with
  | false => exact arm SuccessArm.noContent.lines
  | true =>
      change renderAll _ [_] = _
      rw [render_all_single, render_choose guarded]
      cases context.respIsSlice with
      | false => exact arm SuccessArm.json.lines
      | true => exact arm SuccessArm.guardedJson.lines

end Template

namespace OpenApi

variable {manifest : Manifest} {named : String → Option String} {endpoint : Endpoint}
  {context : EndpointContext} {operation : Operation}

theorem BodyOf.component {body : RequestBody} (wellFormed : endpoint.WellFormed manifest)
    (bodyOf : BodyOf manifest named endpoint (some body)) : ∃ id name,
      named id = some name ∧ body.content = jsonContent (.component name) := by
  cases bodyOf with
  | json read requested translates =>
      obtain ⟨bindings, active, _⟩ := (Option.any_eq_true _ _).mp read
      obtain ⟨present, binds⟩ := Endpoint.active_bindings_iff.mp active
      obtain ⟨id, entry, requested', found, form⟩ :=
        wellFormed.request_struct bindings present binds
      rw [requested] at requested'
      cases requested'
      have isStruct := Manifest.resolve_struct_iff.mpr ⟨rfl, found, form⟩
      cases translates with
      | primitive resolved => simp_all
      | slice resolved => simp_all
      | struct resolved known => exact ⟨_, _, known, rfl⟩

theorem SuccessOf.status_cases {entry : UInt16 × Response}
    (successOf : SuccessOf manifest named endpoint entry) : entry.1 = 200 ∨ entry.1 = 204 := by
  cases successOf with
  | silent => exact .inr rfl
  | json => exact .inl rfl

theorem Operation.Documents.failure (documents : operation.Documents manifest named endpoint)
    {status : UInt16} {response : Response} (apart : status ≠ 200 ∧ status ≠ 204)
    (known : (failureResponses endpoint).lookup status = some response) :
    operation.responses.get? status = some response := by
  obtain ⟨success, successOf, merged⟩ := documents.responses
  have other : (status == success.1) = false := by
    rcases successOf.status_cases with ok | noContent
    · simpa [ok] using apart.1
    · simpa [noContent] using apart.2
  rw [merged, get?_merge_responses, List.lookup_append, List.lookup_cons, other, known]
  rfl

theorem Operation.Documents.success (documents : operation.Documents manifest named endpoint)
    (speaks : context.hasResponse = endpoint.shape.hasResponse)
    (guards : context.respIsSlice =
      (endpoint.shape.hasResponse && endpoint.respType.any manifest.isSlice)) :
    ∃ response, operation.responses.get? context.successArm.status = some response ∧
      response.Documents context.successArm := by
  obtain ⟨success, successOf, merged⟩ := documents.responses
  have first : operation.responses.get? success.1 = some success.2 := by
    rw [merged, get?_merge_responses, List.cons_append, List.lookup_cons, beq_self_eq_true]
  refine ⟨success.2, ?_⟩
  unfold EndpointContext.successArm
  cases successOf with
  | silent silent =>
      rw [speaks, silent]
      exact ⟨first, .noContent⟩
  | json answers answered translates =>
      rw [answers, answered, Option.any_some, Bool.true_and] at guards
      rw [speaks, answers, guards, if_pos rfl]
      have isArray := translates.array_iff
      split_ifs with guarded
      · exact ⟨first, .guardedJson (isArray.mpr guarded)⟩
      · exact ⟨first, .json fun array => guarded (isArray.mp array)⟩

end OpenApi

namespace RoutesModule

variable {manifest : Manifest} {endpoint : Endpoint} {context : EndpointContext}

theorem EndpointContext.Presents.bind_function_iff (presents : context.Presents manifest endpoint) :
    context.bindFunction.isSome ↔ endpoint.requiresBinding = true := by
  obtain ⟨site, rfl, own⟩ := presents
  obtain ⟨bindings, bindFunction, _, named, rfl⟩ := of_site_ok_iff.mp own
  unfold EndpointContext.bindFunctionOf at named
  unfold Endpoint.requiresBinding
  split at named
  · rename_i active _
    cases named
    simp [active]
  · cases named
  · rename_i active
    cases named
    simp [active]

end RoutesModule

end ApiCompiler
