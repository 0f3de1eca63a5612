import ApiCompiler.Proofs.ListingOrder
import Mathlib.Data.List.Perm.Subperm

/-!
Which fault validation reports. Relisting the endpoints can only change it where different endpoints
have the same path, method and handler: these tie in the canonical order, and stay as listed.
-/

set_option autoImplicit false

namespace ApiCompiler

/-- What is reported of an endpoint at which the checks stop: its own fault, or else that its route
is taken. -/
def Manifest.endpointFault (manifest : Manifest) (endpoint : Endpoint) : ManifestFault :=
  match Validation.checkEndpoint manifest endpoint with
  | .error fault => .inEndpoint endpoint.routeLabel fault
  | .ok () => .duplicateRoute endpoint.routeLabel

namespace Validation

/-- The endpoints before this one pass, and those up to it do not. -/
structure StopsAt (manifest : Manifest) (endpoints before : List Endpoint) (endpoint : Endpoint) :
    Prop where
  listed : before ++ [endpoint] <+: endpoints
  passes : checkEndpoints manifest [] before = .ok ()
  fails : checkEndpoints manifest [] (before ++ [endpoint]) ≠ .ok ()

variable {manifest : Manifest} {endpoints : List Endpoint}

theorem check_endpoints_passing {routes : List (Method × String)} {endpoint : Endpoint}
    (checked : checkEndpoint manifest endpoint = .ok ()) (fresh : endpoint.route ∉ routes)
    (rest : List Endpoint) :
    checkEndpoints manifest routes (endpoint :: rest) =
      checkEndpoints manifest (endpoint.route :: routes) rest := by
  have free : (!routes.contains (endpoint.method, endpoint.path)) = true := by
    simpa [Endpoint.route] using fresh
  rw [checkEndpoints, checked, free]
  rfl

theorem check_endpoints_error {routes : List (Method × String)} {fault : ManifestFault}
    (failed : checkEndpoints manifest routes endpoints = .error fault) :
    ∃ before endpoint, before ++ [endpoint] <+: endpoints ∧
      checkEndpoints manifest routes before = .ok () ∧
      checkEndpoints manifest routes (before ++ [endpoint]) = .error fault ∧
      fault = manifest.endpointFault endpoint := by
  induction endpoints generalizing routes with
  | nil => cases failed
  | cons endpoint rest induction =>
      have first : [endpoint] <+: endpoint :: rest := ⟨rest, rfl⟩
      cases checked : checkEndpoint manifest endpoint with
      | error own =>
          rw [checkEndpoints, checked] at failed
          cases failed
          refine ⟨[], endpoint, first, rfl, ?_, ?_⟩
          · rw [List.nil_append, checkEndpoints, checked]
            rfl
          · rw [Manifest.endpointFault, checked]
      | ok =>
          by_cases taken : endpoint.route ∈ routes
          · have blocked : (!routes.contains (endpoint.method, endpoint.path)) = false := by
              simpa [Endpoint.route] using taken
            rw [checkEndpoints, checked, blocked] at failed
            cases failed
            refine ⟨[], endpoint, first, rfl, ?_, ?_⟩
            · rw [List.nil_append, checkEndpoints, checked, blocked]
              rfl
            · rw [Manifest.endpointFault, checked]
          · rw [check_endpoints_passing checked taken] at failed
            obtain ⟨before, stop, listed, passes, fails, same⟩ := induction failed
            refine ⟨endpoint :: before, stop, (List.prefix_cons_inj endpoint).mpr listed, ?_, ?_,
              same⟩
            · rw [check_endpoints_passing checked taken, passes]
            · rw [List.cons_append, check_endpoints_passing checked taken, fails]

theorem stops_of_error {fault : ManifestFault}
    (failed : checkEndpoints manifest [] endpoints = .error fault) :
    ∃ before endpoint, StopsAt manifest endpoints before endpoint ∧
      fault = manifest.endpointFault endpoint := by
  obtain ⟨before, endpoint, listed, passes, fails, same⟩ := check_endpoints_error failed
  exact ⟨before, endpoint, ⟨listed, passes, by simp [fails]⟩, same⟩

/-- Endpoints pass in whatever order when they are among those that pass. -/
theorem check_endpoints_of_subperm {fewer : List Endpoint} (among : fewer.Subperm endpoints)
    (passes : checkEndpoints manifest [] endpoints = .ok ()) :
    checkEndpoints manifest [] fewer = .ok () := by
  obtain ⟨checked, distinct, fresh⟩ := check_endpoints_ok_iff.mp passes
  obtain ⟨chosen, reordered, sub⟩ := among
  refine check_endpoints_ok_iff.mpr ⟨?_, ?_, by simp⟩
  · intro endpoint listed
    exact checked endpoint (sub.subset (reordered.mem_iff.mpr listed))
  · exact (reordered.map Endpoint.route).nodup_iff.mp (distinct.sublist (sub.map Endpoint.route))

section

variable {first second before before' : List Endpoint} {endpoint endpoint' : Endpoint}

/-- In a sorted list, those before an endpoint are not behind it, and no others are below it. -/
theorem StopsAt.upto_below (stops : StopsAt manifest first before endpoint)
    (sorted : first.Pairwise fun left right => (left.order right).isLE = true)
    (below : endpoint.order endpoint' = .lt) :
    ∀ earlier ∈ before ++ [endpoint], earlier.order endpoint' = .lt := by
  have sorted' := sorted.sublist stops.listed.sublist
  rw [List.pairwise_append] at sorted'
  intro earlier listed
  rcases List.mem_append.mp listed with isBefore | isLast
  · have le := sorted'.2.2 earlier isBefore endpoint List.mem_cons_self
    exact Std.TransCmp.lt_of_isLE_of_lt le below
  · rwa [List.mem_singleton.mp isLast]

theorem StopsAt.below_before (stops : StopsAt manifest first before endpoint)
    (sorted : first.Pairwise fun left right => (left.order right).isLE = true) :
    (first.filter fun other => other.order endpoint == .lt).Sublist before := by
  obtain ⟨after, rfl⟩ := stops.listed
  rw [List.append_assoc, List.singleton_append] at sorted ⊢
  have behind := (List.pairwise_append.mp sorted).2.1
  have none : (endpoint :: after).filter (fun other => other.order endpoint == .lt) = [] := by
    apply List.filter_eq_nil_iff.mpr
    intro other listed
    rcases List.mem_cons.mp listed with rfl | later
    · simp [Std.ReflCmp.compare_self]
    · have le := List.rel_of_pairwise_cons behind later
      have swapped : other.order endpoint = (endpoint.order other).swap := Std.OrientedCmp.eq_swap
      rw [swapped]
      revert le
      cases endpoint.order other <;> simp
  rw [List.filter_append, none, List.append_nil]
  exact List.filter_sublist

/-- All that stands up to a stop below another one stands before that as well, where it passes. -/
theorem StopsAt.not_below (stops : StopsAt manifest first before endpoint)
    (stops' : StopsAt manifest second before' endpoint') (reordered : first.Perm second)
    (sorted : first.Pairwise fun left right => (left.order right).isLE = true)
    (sorted' : second.Pairwise fun left right => (left.order right).isLE = true) :
    endpoint.order endpoint' ≠ .lt := by
  intro below
  have kept : (before ++ [endpoint]).filter (fun other => other.order endpoint' == .lt) =
      before ++ [endpoint] := by
    apply List.filter_eq_self.mpr
    intro earlier listed
    simpa using stops.upto_below sorted below earlier listed
  have among : (before ++ [endpoint]).Subperm before' := by
    rw [← kept]
    have upto := (stops.listed.sublist.filter fun other => other.order endpoint' == .lt).subperm
    have relisted := (reordered.filter fun other => other.order endpoint' == .lt).subperm
    exact (upto.trans relisted).trans (stops'.below_before sorted').subperm
  exact stops.fails (check_endpoints_of_subperm among stops'.passes)

end

end Validation

namespace Manifest

open Validation

variable {manifest : Manifest} {listed : List Endpoint}

/-- The checks of two lists of the same endpoints stop at endpoints that tie. -/
theorem stops_tie {before before' : List Endpoint} {endpoint endpoint' : Endpoint}
    (reordered : listed.Perm manifest.endpoints)
    (stops : StopsAt manifest manifest.canonicalEndpoints before endpoint)
    (stops' : StopsAt manifest (manifest.relist listed).canonicalEndpoints before' endpoint') :
    endpoint.order endpoint' = .eq := by
  have sorted := manifest.canonical_endpoints_sorted
  have sorted' := (manifest.relist listed).canonical_endpoints_sorted
  have same : manifest.canonicalEndpoints.Perm (manifest.relist listed).canonicalEndpoints :=
    (manifest.canonical_endpoints_perm.trans reordered.symm).trans
      (manifest.relist listed).canonical_endpoints_perm.symm
  have notLess := stops.not_below stops' same sorted sorted'
  have notGreater := stops'.not_below stops same.symm sorted' sorted
  have swapped : endpoint'.order endpoint = (endpoint.order endpoint').swap :=
    Std.OrientedCmp.eq_swap
  rw [swapped] at notGreater
  revert notLess notGreater
  cases endpoint.order endpoint' <;> simp

/-- What is checked before the endpoints. -/
def checkContent (manifest : Manifest) : Except ManifestFault Unit := do
  require (manifest.version == currentVersion) (.unsupportedVersion manifest.version)
  checkTypes manifest
  checkMiddlewares manifest

theorem validate_eq (manifest : Manifest) : manifest.validate = (do
    manifest.checkContent
    checkEndpoints manifest [] manifest.canonicalEndpoints) := by
  unfold validate checkContent
  simp only [bind_assoc]

theorem validate_relisted_eq (manifest : Manifest) (listed : List Endpoint) :
    (manifest.relist listed).validate = (do
      manifest.checkContent
      checkEndpoints manifest [] (manifest.relist listed).canonicalEndpoints) := by
  have content : (manifest.relist listed).checkContent = manifest.checkContent := by
    unfold checkContent
    rw [check_types_relisted]
    rfl
  rw [validate_eq, content, check_endpoints_relisted]

/-- A relisted manifest is judged alike, unless different endpoints have one path, method and
handler; then each order of the list may report the fault of another one of these. -/
theorem validate_relisted_or_tied (manifest : Manifest) (listed : List Endpoint)
    (reordered : listed.Perm manifest.endpoints) :
    (manifest.relist listed).validate = manifest.validate ∨
      ∃ endpoint ∈ manifest.endpoints, ∃ other ∈ manifest.endpoints,
        endpoint ≠ other ∧ endpoint.route = other.route ∧ endpoint.handler = other.handler ∧
          manifest.validate = .error (manifest.endpointFault endpoint) ∧
          (manifest.relist listed).validate = .error (manifest.endpointFault other) := by
  rw [validate_relisted_eq, validate_eq]
  have relisted : (manifest.relist listed).canonicalEndpoints.Perm manifest.canonicalEndpoints :=
    ((manifest.relist listed).canonical_endpoints_perm.trans reordered).trans
      manifest.canonical_endpoints_perm.symm
  cases content : manifest.checkContent with
  | error fault => exact .inl rfl
  | ok =>
      change checkEndpoints _ _ _ = checkEndpoints _ _ _ ∨ _
      cases first : checkEndpoints manifest [] manifest.canonicalEndpoints with
      | ok => exact .inl (check_endpoints_of_subperm relisted.subperm first)
      | error fault =>
          cases second : checkEndpoints manifest [] (manifest.relist listed).canonicalEndpoints with
          | ok =>
              rw [check_endpoints_of_subperm relisted.symm.subperm second] at first
              cases first
          | error fault' =>
              obtain ⟨before, endpoint, stops, rfl⟩ := stops_of_error first
              obtain ⟨before', other, stops', rfl⟩ := stops_of_error second
              by_cases same : endpoint = other
              · exact .inl (by rw [same])
              · obtain ⟨path, method, handler⟩ :=
                  Endpoint.order_eq_iff.mp (stops_tie reordered stops stops')
                have member := stops.listed.subset (List.mem_append_right _ List.mem_cons_self)
                have member' := relisted.mem_iff.mp
                  (stops'.listed.subset (List.mem_append_right _ List.mem_cons_self))
                exact .inr ⟨endpoint, mem_canonical_iff.mp member, other,
                  mem_canonical_iff.mp member', same, by rw [Endpoint.route, path, method]; rfl,
                  handler, rfl, rfl⟩

/-- One handler at one route twice, as one that needs a request type and as one that needs a
response type; it has neither. -/
def twinOrders : Manifest := { empty with
  endpoints := [
    ⟨.post, "/orders", ⟨"crate::orders", "place"⟩, .reqNoResp, none, none, none, []⟩,
    ⟨.post, "/orders", ⟨"crate::orders", "place"⟩, .noReqResp, none, none, none, []⟩] }

theorem twin_orders_faults :
    twinOrders.validate =
        .error (.inEndpoint "POST /orders" (.requestTypeMissing .reqNoResp)) ∧
      (twinOrders.relist twinOrders.endpoints.reverse).validate =
        .error (.inEndpoint "POST /orders" (.responseTypeMissing .noReqResp)) := by
  constructor <;> cbv

theorem twin_orders_tied : twinOrders.endpoints.reverse.Perm twinOrders.endpoints ∧
    ∃ endpoint ∈ twinOrders.endpoints, ∃ other ∈ twinOrders.endpoints,
      endpoint ≠ other ∧ endpoint.route = other.route ∧ endpoint.handler = other.handler ∧
        twinOrders.validate = .error (twinOrders.endpointFault endpoint) ∧
        (twinOrders.relist twinOrders.endpoints.reverse).validate =
          .error (twinOrders.endpointFault other) := by
  refine ⟨List.reverse_perm _, ?_⟩
  refine (validate_relisted_or_tied twinOrders _ (List.reverse_perm _)).resolve_left ?_
  rw [twin_orders_faults.1, twin_orders_faults.2]
  decide

/-- What is told of a manifest is not always the same for each order of its endpoints. -/
theorem told_fault_depends_on_listing :
    ¬∀ (manifest : Manifest) (listed : List Endpoint), listed.Perm manifest.endpoints →
      (manifest.relist listed).validate.mapError ManifestFault.message =
        manifest.validate.mapError ManifestFault.message := by
  intro same
  have told := same twinOrders twinOrders.endpoints.reverse (List.reverse_perm _)
  rw [twin_orders_faults.1, twin_orders_faults.2] at told
  revert told
  decide

end Manifest

end ApiCompiler
