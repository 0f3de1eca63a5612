import ApiCompiler.Proofs.ResponseMerge
import ApiCompiler.Proofs.ServedEndpoints

/-!
The responses of an operation. They are listed as what is built in, and then what the middlewares
declare, in the order of the middlewares and of their declarations; of several responses with one
status, the first one stands.
-/

set_option autoImplicit false

namespace ApiCompiler

open OpenApi (Operation Response jsonContent operationAt)

/-- A failure comes with the error envelope, and any other declared status without content. -/
def StatusDeclaration.response (declaration : StatusDeclaration) : Response where
  description := declaration.description
  content :=
    if 400 ≤ declaration.status.toNat then
      some (jsonContent (.component Schema.errorResponseName))
    else none

namespace OpenApi

variable {manifest : Manifest} {named : String → Option String} {endpoint : Endpoint}
  {operation : Operation}

theorem SuccessOf.listed {entry : UInt16 × Response}
    (successOf : SuccessOf manifest named endpoint entry) : ∃ schema,
    (if endpoint.shape.hasResponse then [(200, Response.json "Successful response" schema)]
      else [(204, .plain "No content")]) = [entry] := by
  cases successOf with
  | silent silent => exact ⟨default, by simp [silent]⟩
  | @json _ schema speaks => exact ⟨schema, by simp [speaks]⟩

end OpenApi

end ApiCompiler
