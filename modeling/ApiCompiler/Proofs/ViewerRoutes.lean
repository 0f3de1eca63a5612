import ApiCompiler.Proofs.SettledConfig
import ApiCompiler.Proofs.ViewerModule

/-!
The routes of the viewer. A checked configuration keeps the route of the document apart from the
route of the viewer, but not from those of the files that the viewer loads.
-/

set_option autoImplicit false

namespace ApiCompiler

open Docs (jsonPath assetsPath registrations)

namespace Config

variable {given config : Config}

/-- A checked configuration with a viewer has the two routes that it sets apart. -/
theorem viewer_routes_of_validated (enabled : given.docsUiEnabled = true)
    (accepted : given.validated = .ok config) :
    config.docsUiEnabled = true ∧ jsonPath config ≠ config.docsPath := by
  obtain ⟨docsPath, _, rfl, routes, _⟩ := validated_ok_iff.mp accepted
  have viewer : given.withImplied.docsUiEnabled = true := by rwa [with_implied_eq]
  obtain ⟨_, path, set⟩ := implied_of_viewer viewer
  refine ⟨viewer, fun same => (check_json_path_ok_iff.mp (routes path set)).2 ⟨viewer, ?_⟩⟩
  rwa [jsonPath, set] at same

end Config

namespace Docs

/-- The route of the viewer and those of its files are apart for any configuration. -/
theorem file_routes_apart (config : Config) :
    config.docsPath ≠ assetsPath config ++ "/viewer.css" ∧
      config.docsPath ≠ assetsPath config ++ "/viewer.js" ∧
      assetsPath config ++ "/viewer.css" ≠ assetsPath config ++ "/viewer.js" := by
  have longer : ∀ ending : String, ending ≠ "" → config.docsPath ≠ config.docsPath ++ ending := by
    intro ending letters same
    have lengths := congrArg (fun text : String => text.toList.length) same
    rw [String.toList_append, List.length_append, Nat.left_eq_add, List.length_eq_zero_iff] at lengths
    exact letters (String.toList_inj.mp lengths)
  refine ⟨?_, ?_, ?_⟩
  · rw [assetsPath, String.append_assoc]
    exact longer _ (by decide)
  · rw [assetsPath, String.append_assoc]
    exact longer _ (by decide)
  · intro same
    have endings := congrArg String.toList same
    rw [String.toList_append, String.toList_append, List.append_cancel_left_eq] at endings
    exact absurd endings (by decide)

end Docs

/-- The module of the viewer registers four routes. They are distinct just when the document is not
served at the route of one of the viewer's files. -/
theorem viewer_routes_distinct_iff {given config : Config} (enabled : given.docsUiEnabled = true)
    (accepted : given.validated = .ok config) :
    (∃ page, Docs.bundle config =
      .ok (some (Docs.filesOf (Passage.join (Docs.passages config)) page))) ∧
    (((registrations config).map Prod.fst).Nodup ↔
      jsonPath config ≠ assetsPath config ++ "/viewer.css" ∧
        jsonPath config ≠ assetsPath config ++ "/viewer.js") := by
  obtain ⟨viewer, apart⟩ := Config.viewer_routes_of_validated enabled accepted
  obtain ⟨style, script, files⟩ := Docs.file_routes_apart config
  refine ⟨Docs.bundle_module viewer, ?_⟩
  simp [registrations, apart, style, script, files]

theorem plain_viewer_routes : Config.plainViewer.docsUiEnabled = true ∧
    Config.plainViewer.validated = .ok Config.plainViewer ∧
    (∃ page, Docs.bundle Config.plainViewer =
      .ok (some (Docs.filesOf (Passage.join (Docs.passages Config.plainViewer)) page))) ∧
    (((registrations Config.plainViewer).map Prod.fst).Nodup ↔
      jsonPath Config.plainViewer ≠ assetsPath Config.plainViewer ++ "/viewer.css" ∧
        jsonPath Config.plainViewer ≠ assetsPath Config.plainViewer ++ "/viewer.js") :=
  ⟨rfl, Config.plain_viewer_validated,
    viewer_routes_distinct_iff rfl Config.plain_viewer_validated⟩

/-- A document served at the route of the viewer's style sheet. -/
def Config.styleRouteTaken : Config :=
  { Config.plainViewer with openapiJsonPath := some "/docs/assets/viewer.css" }

theorem checked_routes_not_always_distinct : ¬∀ given config : Config,
    given.docsUiEnabled = true → given.validated = .ok config →
      ((registrations config).map Prod.fst).Nodup := by
  intro distinct
  have accepted : Config.styleRouteTaken.validated = .ok Config.styleRouteTaken := by decide
  have nodup := distinct Config.styleRouteTaken Config.styleRouteTaken rfl accepted
  exact absurd nodup (by decide)

end ApiCompiler
