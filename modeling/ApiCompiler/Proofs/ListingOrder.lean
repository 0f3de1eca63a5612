import ApiCompiler.Proofs.ReferencedContent

/-!
The order in which a manifest lists its endpoints. Nothing but the canonical list reads it, and the
routes of an accepted manifest leave no ties in the canonical order, so it is never seen.
-/

set_option autoImplicit false

namespace ApiCompiler

/-- A manifest with another list of endpoints. -/
def Manifest.relist (manifest : Manifest) (listed : List Endpoint) : Manifest :=
  { manifest with endpoints := listed }

variable {manifest : Manifest} {listed : List Endpoint}

namespace Manifest

/-! ### Type references are looked up in the types only -/

theorem visit_relisted (manifest : Manifest) (listed : List Endpoint) (depth : Nat) :
    (manifest.relist listed).visit depth = manifest.visit depth := by
  funext path done id
  induction depth generalizing path done id with
  | zero => rfl
  | succ depth induction =>
      have below : (manifest.relist listed).visit depth = manifest.visit depth := by
        funext path done id
        exact induction path done id
      rw [visit, visit, below]
      rfl

theorem search_all_relisted (manifest : Manifest) (listed : List Endpoint) (starts : List String) :
    (manifest.relist listed).searchAll starts = manifest.searchAll starts := by
  have searches : (manifest.relist listed).search = manifest.search := by
    funext done start
    rw [search, visit_relisted]
    rfl
  rw [searchAll, searches]
  rfl

end Manifest

namespace Validation

theorem check_fields_relisted (manifest : Manifest) (listed : List Endpoint) (id : String)
    (seen : List String) (fields : List Field) :
    checkFields (manifest.relist listed) id seen fields =
      checkFields manifest id seen fields := by
  induction fields generalizing seen with
  | nil => rfl
  | cons field rest induction =>
      rw [checkFields, checkFields, induction]
      rfl

theorem check_types_relisted (manifest : Manifest) (listed : List Endpoint) :
    checkTypes (manifest.relist listed) = checkTypes manifest := by
  have entries : checkEntry (manifest.relist listed) = checkEntry manifest := by
    funext key entry
    unfold checkEntry
    rw [check_fields_relisted]
    rfl
  rw [checkTypes, entries, Manifest.search_all_relisted]
  rfl

theorem check_endpoint_relisted (manifest : Manifest) (listed : List Endpoint)
    (endpoint : Endpoint) :
    checkEndpoint (manifest.relist listed) endpoint = checkEndpoint manifest endpoint := by
  rw [checkEndpoint, Manifest.search_all_relisted]
  rfl

theorem check_endpoints_relisted (manifest : Manifest) (listed : List Endpoint)
    (routes : List (Method × String)) (endpoints : List Endpoint) :
    checkEndpoints (manifest.relist listed) routes endpoints =
      checkEndpoints manifest routes endpoints := by
  induction endpoints generalizing routes with
  | nil => rfl
  | cons endpoint rest induction =>
      rw [checkEndpoints, checkEndpoints, check_endpoint_relisted, induction]

end Validation

theorem Manifest.validate_relisted
    (same : (manifest.relist listed).canonicalEndpoints = manifest.canonicalEndpoints) :
    (manifest.relist listed).validate = manifest.validate := by
  unfold validate
  rw [Validation.check_types_relisted, Validation.check_endpoints_relisted, same]
  rfl

theorem Manifest.shares_referenced_relisted
    (same : (manifest.relist listed).canonicalEndpoints = manifest.canonicalEndpoints) :
    manifest.SharesReferenced (manifest.relist listed) :=
  ⟨same, fun _ _ => rfl, fun _ _ => rfl, fun _ _ _ _ => rfl⟩

theorem compile_relisted_ok (manifest : Manifest) (reordered : listed.Perm manifest.endpoints)
    {config : Config} {artifacts : Artifacts} (compiled : compile manifest config = .ok artifacts) :
    compile (manifest.relist listed) config = .ok artifacts := by
  obtain ⟨checked, accepted, validated, built⟩ := compile_ok_iff.mp compiled
  have wellFormed := Manifest.well_formed_of_validate validated
  have same : manifest.canonicalEndpoints = (manifest.relist listed).canonicalEndpoints :=
    Manifest.canonical_endpoints_unique reordered.symm wellFormed.routes_distinct
  have validated' : (manifest.relist listed).validate = .ok () := by
    rw [Manifest.validate_relisted same.symm, validated]
  have wellFormed' := Manifest.well_formed_of_validate validated'
  have shares := Manifest.shares_referenced_relisted same.symm
  refine compile_ok_iff.mpr ⟨checked, accepted, validated', ?_⟩
  rw [shares.build wellFormed wellFormed', built]

/-- Artifacts do not tell in which order the endpoints were listed. -/
theorem compile_ok_iff_of_relisted (manifest : Manifest) (config : Config) (listed : List Endpoint)
    (reordered : listed.Perm manifest.endpoints) (artifacts : Artifacts) :
    compile { manifest with endpoints := listed } config = .ok artifacts ↔
      compile manifest config = .ok artifacts :=
  ⟨compile_relisted_ok { manifest with endpoints := listed } reordered.symm,
    compile_relisted_ok manifest reordered⟩

theorem pet_shop_reversed_compiles : ∃ source document files,
    compile Manifest.petShop Config.plainViewer = .ok ⟨source, some document, some files⟩ ∧
      compile { Manifest.petShop with endpoints := Manifest.petShop.endpoints.reverse }
        Config.plainViewer = .ok ⟨source, some document, some files⟩ := by
  have validated : Manifest.petShop.validate = .ok () := by cbv
  obtain ⟨source, document, files, compiled⟩ := plain_viewer_compiles validated
  have relisted := compile_ok_iff_of_relisted Manifest.petShop Config.plainViewer _
    (List.reverse_perm Manifest.petShop.endpoints) ⟨source, some document, some files⟩
  exact ⟨source, document, files, compiled, relisted.mpr compiled⟩

end ApiCompiler
