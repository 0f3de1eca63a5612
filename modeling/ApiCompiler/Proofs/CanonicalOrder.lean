import ApiCompiler.Proofs.ByteOrder
import ApiCompiler.Proofs.PathGroups

/-!
What the canonical order is for. Endpoints are compared by the bytes of four of their texts, one
text after the other, so only endpoints that agree in all four of them tie. The canonical list holds
the endpoints of a manifest in that order. Its groups are the list itself, cut where the path
changes, and no path changes back to an earlier one.
-/

set_option autoImplicit false

namespace ApiCompiler

namespace Endpoint

/-- The texts that endpoints are compared by, as bytes. -/
def sortKey (endpoint : Endpoint) : List (List UInt8) :=
  [endpoint.path, endpoint.method.name, endpoint.handler.package, endpoint.handler.name].map
    Text.toUtf8

variable {left right : Endpoint}

theorem order_lt_iff : left.order right = .lt ↔ left.sortKey < right.sortKey := by
  simp only [order, sortKey, Ordering.then_eq_lt, compare_lt_iff_lt, compare_eq_iff_eq,
    List.map_cons, List.map_nil, List.cons_lt_cons_iff, Text.to_utf8_lt_iff,
    Text.to_utf8_injective.eq_iff, List.lt_irrefl, and_false, or_false]

theorem order_le_iff : (left.order right).isLE = true ↔ left.sortKey ≤ right.sortKey := by
  have swapped : left.order right = (right.order left).swap := Std.OrientedCmp.eq_swap
  rw [← List.not_lt, ← order_lt_iff, swapped]
  cases right.order left <;> decide

/-- An order of endpoints compares four of their texts, one after the other and byte by byte. -/
structure ComparesTexts (order : Endpoint → Endpoint → Ordering) : Prop where
  bytewise : ∀ left right, (order left right).isLE = true ↔ left.sortKey ≤ right.sortKey
  swapped : ∀ left right, order left right = (order right left).swap
  transitive : ∀ first second third, (order first second).isLE = true →
    (order second third).isLE = true → (order first third).isLE = true
  total : ∀ left right, (order left right).isLE = true ∨ (order right left).isLE = true
  ties_iff : ∀ left right, order left right = .eq ↔
    left.path = right.path ∧ left.method = right.method ∧
      left.handler.package = right.handler.package ∧ left.handler.name = right.handler.name

theorem order_compares_texts : ComparesTexts order := by
  refine ⟨fun _ _ => order_le_iff, fun _ _ => Std.OrientedCmp.eq_swap,
    fun _ _ _ => Std.TransCmp.isLE_trans, ?_, ?_⟩
  · intro left right
    rw [order_le_iff, order_le_iff]
    exact List.le_total _ _
  · intro left right
    simp only [order, Ordering.then_eq_eq, compare_eq_iff_eq, Method.name_injective.eq_iff]

end Endpoint

namespace Manifest

/-- A list has all endpoints of a manifest, none of them before a lesser one, and its groups are the
list cut at the changes of path. -/
structure GroupsPaths (manifest : Manifest) (endpoints : List Endpoint) : Prop where
  reordered : endpoints.Perm manifest.endpoints
  sorted : endpoints.Pairwise fun earlier later => (earlier.order later).isLE = true
  whole : (groupByPath (indexed endpoints)).flatMap (·.members) = indexed endpoints
  nonempty : ∀ group ∈ groupByPath (indexed endpoints), group.members ≠ []
  members : ∀ group ∈ groupByPath (indexed endpoints), ∀ member ∈ group.members,
    member.2.path = group.path
  ascending : ((groupByPath (indexed endpoints)).map fun group => Text.toUtf8 group.path).Pairwise
    (· < ·)
  once : ((groupByPath (indexed endpoints)).map (·.path)).Nodup

/-- The canonical order is a total preorder of endpoints that tells apart all but those which agree
in route and handler, and it keeps the endpoints of each path together. -/
theorem canonical_order_groups_paths (manifest : Manifest) :
    Endpoint.ComparesTexts Endpoint.order ∧ manifest.GroupsPaths manifest.canonicalEndpoints := by
  have groups := group_by_path_paths (indexed manifest.canonicalEndpoints)
  have ascending := group_paths_ascend manifest.indexed_paths_sorted
  refine ⟨Endpoint.order_compares_texts, manifest.canonical_endpoints_perm,
    manifest.canonical_endpoints_sorted, group_by_path_members _, fun group listed =>
    (groups group listed).1, fun group listed => (groups group listed).2, ?_, ?_⟩
  · rw [List.pairwise_map] at ascending ⊢
    exact ascending.imp Text.to_utf8_lt
  · exact ascending.imp ne_of_lt

end Manifest

end ApiCompiler
