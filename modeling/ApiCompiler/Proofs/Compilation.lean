import ApiCompiler.Compile
import ApiCompiler.Proofs.DocumentPaths
import ApiCompiler.Proofs.RoutesModule
import ApiCompiler.Proofs.SettledConfig
import ApiCompiler.Proofs.Validation
import Mathlib

/-!
Compiling fails for the reasons of the two checks only. What a checked configuration and a checked
manifest make can always be made, so none of the later faults occurs.
-/

set_option autoImplicit false

namespace ApiCompiler

variable {manifest : Manifest} {config checked : Config}

theorem compile_of_config_fault {fault : ConfigFault} (rejected : config.validated = .error fault) :
    compile manifest config = .error (.config fault) := by
  rw [compile, rejected]
  rfl

theorem compile_of_manifest_fault {fault : ManifestFault}
    (accepted : config.validated = .ok checked) (rejected : manifest.validate = .error fault) :
    compile manifest config = .error (.manifest fault) := by
  rw [compile, accepted, rejected]
  rfl

theorem compile_ok_iff {artifacts : Artifacts} :
    compile manifest config = .ok artifacts ↔
      ∃ checked, config.validated = .ok checked ∧ manifest.validate = .ok () ∧
        Artifacts.build manifest checked = .ok artifacts := by
  rw [compile, bind_ok_iff]
  simp only [unit_bind_ok_iff, map_error_ok_iff]

/-- Every part of the artifacts is made, the document even where no one asked for it. -/
structure Makes (manifest : Manifest) (config : Config) (source : String)
    (document : OpenApi.Document) (docs : Option (List BundleFile)) : Prop where
  source : RoutesModule.source manifest manifest.canonicalEndpoints
    (.ofEndpoints manifest.canonicalEndpoints) = .ok source
  document : OpenApi.documentOf manifest config manifest.canonicalEndpoints
    (.ofEndpoints manifest.canonicalEndpoints) = .ok document
  docs : Docs.bundle config = .ok docs

theorem Manifest.WellFormed.makes (wellFormed : manifest.WellFormed) (config : Config) :
    ∃ source document docs, Makes manifest config source document docs := by
  obtain ⟨source, printed⟩ := RoutesModule.source_succeeds wellFormed.canonical
  obtain ⟨document, built⟩ := OpenApi.document_succeeds wellFormed config
  obtain ⟨docs, bundled⟩ := Docs.bundle_succeeds config
  exact ⟨source, document, docs, printed, built, bundled⟩

theorem Makes.build {source : String} {document : OpenApi.Document}
    {docs : Option (List BundleFile)} (makes : Makes manifest config source document docs) :
    Artifacts.build manifest config =
      .ok ⟨source, if config.openapiEnabled then some document.render else none, docs⟩ := by
  have text : Artifacts.documentText manifest config manifest.canonicalEndpoints
      (.ofEndpoints manifest.canonicalEndpoints) =
        .ok (if config.openapiEnabled then some document.render else none) := by
    rw [Artifacts.documentText, makes.document]
    split_ifs <;> rfl
  simp only [Artifacts.build, makes.source, text, makes.docs, bind, Except.bind, pure, Except.pure]

theorem compile_makes (accepted : config.validated = .ok checked)
    (validated : manifest.validate = .ok ()) :
    ∃ source document docs, Makes manifest checked source document docs ∧
      compile manifest config =
        .ok ⟨source, if checked.openapiEnabled then some document.render else none, docs⟩ := by
  obtain ⟨source, document, docs, makes⟩ :=
    (Manifest.well_formed_of_validate validated).makes checked
  exact ⟨source, document, docs, makes,
    compile_ok_iff.mpr ⟨checked, accepted, validated, makes.build⟩⟩

/-- Compiling succeeds just when both checks do. The configuration is checked first; once both have
passed, the artifacts are the module, the document if it is enabled, and the viewer. -/
theorem compile_ok_iff_checks (manifest : Manifest) (config : Config) :
    ((∃ artifacts, compile manifest config = .ok artifacts) ↔
      (∃ checked, config.validated = .ok checked) ∧ manifest.validate = .ok ()) ∧
    (∀ fault, config.validated = .error fault →
      compile manifest config = .error (.config fault)) ∧
    (∀ checked fault, config.validated = .ok checked → manifest.validate = .error fault →
      compile manifest config = .error (.manifest fault)) ∧
    (∀ checked, config.validated = .ok checked → manifest.validate = .ok () →
      ∃ source document docs, Makes manifest checked source document docs ∧
        compile manifest config =
          .ok ⟨source, if checked.openapiEnabled then some document.render else none, docs⟩) := by
  refine ⟨⟨?_, ?_⟩, fun fault => compile_of_config_fault,
    fun checked fault => compile_of_manifest_fault, fun checked => compile_makes⟩
  · intro parts
    rcases parts with ⟨artifacts, compiled⟩
    obtain ⟨checked, accepted, validated, _⟩ := compile_ok_iff.mp compiled
    exact ⟨⟨checked, accepted⟩, validated⟩
  · intro parts
    rcases parts with ⟨⟨checked, accepted⟩, validated⟩
    obtain ⟨source, document, docs, _, compiled⟩ := compile_makes accepted validated
    exact ⟨_, compiled⟩

theorem pet_shop_compiles : ∃ artifacts, compile Manifest.petShop {} = .ok artifacts :=
  (compile_ok_iff_checks Manifest.petShop {}).1.mpr ⟨⟨{}, by decide⟩, by cbv⟩

/-- With a viewer, nothing is left out. -/
theorem plain_viewer_compiles (validated : manifest.validate = .ok ()) :
    ∃ source document files, compile manifest Config.plainViewer =
      .ok ⟨source, some document, some files⟩ := by
  obtain ⟨source, document, docs, makes, compiled⟩ :=
    compile_makes Config.plain_viewer_validated validated
  obtain ⟨module, page, _, bundled⟩ := Docs.bundle_eq Config.plainViewer
  cases Except.ok.inj (makes.docs.symm.trans bundled)
  exact ⟨source, document.render, _, compiled⟩

end ApiCompiler
