import ApiCompiler.OpenApi.Build
import ApiCompiler.Proofs.Lookup

/-!
Merged responses: a status is documented by the first response that is listed with it, so what is
built in is never replaced by a declaration.
-/

set_option autoImplicit false

namespace ApiCompiler.OpenApi

theorem get?_add_response (responses : SortedMap UInt16 Response) (entry : UInt16 × Response)
    (status : UInt16) :
    (addResponse responses entry).get? status =
      (responses.get? status).or (if status = entry.1 then some entry.2 else none) := by
  unfold addResponse SortedMap.contains
  by_cases same : status = entry.1
  · subst same
    cases known : responses.get? entry.1 with
    | some response => simp [known]
    | none => simp [SortedMap.get?_insert_self]
  · split_ifs
    · rw [Option.or_none]
    · rw [SortedMap.get?_insert_other _ same, Option.or_none]

theorem get?_add_responses (entries : List (UInt16 × Response))
    (responses : SortedMap UInt16 Response) (status : UInt16) :
    (entries.foldl addResponse responses).get? status =
      (responses.get? status).or (entries.lookup status) := by
  induction entries generalizing responses with
  | nil => simp
  | cons entry rest induction =>
      rw [List.foldl_cons, induction, get?_add_response, Option.or_assoc, List.lookup_cons]
      by_cases same : status = entry.1
      · simp [same]
      · simp [same, beq_eq_false_iff_ne.mpr same]

/-- The first response that is listed with a status is the one that documents it. -/
theorem get?_merge_responses (builtIn declared : List (UInt16 × Response)) (status : UInt16) :
    (mergeResponses builtIn declared).get? status = (builtIn ++ declared).lookup status := by
  rw [mergeResponses, get?_add_responses]
  exact Option.none_or

end ApiCompiler.OpenApi
