import ApiCompiler.Manifest.Order
import ApiCompiler.Proofs.WellFormed
import Mathlib.Data.List.Nodup

/-!
The canonical order of endpoints. Only endpoints with the same path, method and handler tie, so once
no two endpoints share a route the order of the list that they come in is lost.
-/

set_option autoImplicit false

namespace ApiCompiler

namespace Method

theorem name_injective : Function.Injective name := by
  intro left right same
  cases left <;> cases right <;> first | rfl | exact absurd same (by decide)

end Method

namespace Endpoint

/-- The order of endpoints as one of the orders that are compared one after the other. -/
theorem order_eq_lex : order =
    compareLex (compareOn (·.path)) (compareLex (compareOn (·.method.name))
      (compareLex (compareOn (·.handler.package)) (compareOn (·.handler.name)))) := rfl

instance order_trans : Std.TransCmp order := by
  rw [order_eq_lex]
  infer_instance

theorem order_eq_iff {left right : Endpoint} :
    left.order right = .eq ↔ left.path = right.path ∧ left.method = right.method ∧
      left.handler = right.handler := by
  simp only [order, Ordering.then_eq_eq, Std.LawfulEqOrd.compare_eq_iff_eq,
    Method.name_injective.eq_iff]
  rcases left.handler with ⟨package, name⟩
  rcases right.handler with ⟨package', name'⟩
  simp

/-- Endpoints that tie share their route. -/
theorem route_eq_of_order_eq {left right : Endpoint} (tie : left.order right = .eq) :
    left.route = right.route := by
  obtain ⟨path, method, _⟩ := order_eq_iff.mp tie
  rw [route, route, path, method]

end Endpoint

namespace Manifest

theorem canonical_endpoints_perm (manifest : Manifest) :
    manifest.canonicalEndpoints.Perm manifest.endpoints := List.mergeSort_perm _ _

theorem mem_canonical_iff {manifest : Manifest} {endpoint : Endpoint} :
    endpoint ∈ manifest.canonicalEndpoints ↔ endpoint ∈ manifest.endpoints :=
  manifest.canonical_endpoints_perm.mem_iff

theorem WellFormed.canonical {manifest : Manifest} (wellFormed : manifest.WellFormed) :
    ∀ endpoint ∈ manifest.canonicalEndpoints, endpoint.WellFormed manifest :=
  fun endpoint listed => wellFormed.endpoints endpoint (mem_canonical_iff.mp listed)

theorem canonical_endpoints_sorted (manifest : Manifest) :
    manifest.canonicalEndpoints.Pairwise fun left right => (left.order right).isLE = true := by
  apply List.pairwise_mergeSort
  · exact fun first second third => Std.TransCmp.isLE_trans
  · intro left right
    have swapped : left.order right = (right.order left).swap := Std.OrientedCmp.eq_swap
    rw [swapped]
    cases right.order left <;> rfl

theorem canonical_endpoints_unique {first second : Manifest}
    (reordered : first.endpoints.Perm second.endpoints)
    (distinct : (first.endpoints.map Endpoint.route).Nodup) :
    first.canonicalEndpoints = second.canonicalEndpoints := by
  have listed := first.canonical_endpoints_perm
  apply List.Perm.eq_of_pairwise ?_ first.canonical_endpoints_sorted
    second.canonical_endpoints_sorted
    (listed.trans (reordered.trans second.canonical_endpoints_perm.symm))
  intro left right isFirst isSecond le ge
  have tie := Std.OrientedCmp.isLE_antisymm le ge
  have isFirst' := listed.mem_iff.mp isFirst
  have isSecond' := reordered.mem_iff.mpr (second.canonical_endpoints_perm.mem_iff.mp isSecond)
  exact List.inj_on_of_nodup_map distinct isFirst' isSecond' (Endpoint.route_eq_of_order_eq tie)

end Manifest

/-! ### Positions -/

variable {endpoints : List Endpoint} {entry : Nat × Endpoint}

theorem mem_indexed_iff : entry ∈ indexed endpoints ↔ endpoints[entry.1]? = some entry.2 := by
  rcases entry with ⟨index, endpoint⟩
  simp [indexed, List.mem_zipIdx_iff_getElem?]

theorem Manifest.mem_endpoints_of_indexed {manifest : Manifest}
    (position : entry ∈ indexed manifest.canonicalEndpoints) : entry.2 ∈ manifest.endpoints :=
  mem_canonical_iff.mp (List.mem_of_getElem? (mem_indexed_iff.mp position))

theorem indexed_endpoints (endpoints : List Endpoint) :
    (indexed endpoints).map (·.2) = endpoints := by
  simp [indexed, Function.comp_def]

theorem indexed_routes (endpoints : List Endpoint) :
    (indexed endpoints).map (·.2.route) = endpoints.map Endpoint.route := by
  simpa [List.map_map, Function.comp_def] using
    congrArg (List.map Endpoint.route) (indexed_endpoints endpoints)

end ApiCompiler
