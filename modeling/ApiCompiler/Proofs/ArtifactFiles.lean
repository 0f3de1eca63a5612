import ApiCompiler.Proofs.Compilation
import ApiCompiler.Proofs.SettledConfig
import ApiCompiler.Proofs.TemplateText
import ApiCompiler.Proofs.WrittenFiles

/-!
The files of a compilation. Their names come from three places: the command line, the configuration
and the viewer. Only the name from the configuration is free, and it is a single name, so the files
lie apart unless that name is one that is taken.
-/

set_option autoImplicit false

namespace ApiCompiler

theorem slash_of_fill {name text : String} {context : Json.Value} {parts : List Template.Part}
    (known : Template.library.lookup name = some (.text ["// Code generated by "] :: parts))
    (filled : Template.fill name context = .ok text) : text.toList.head? = some '/' := by
  obtain ⟨rest, begins⟩ := Template.fill_begins known filled
  rw [begins]
  simp [String.toList_append]

theorem OpenApi.render_begins (document : OpenApi.Document) :
    document.render.toList.head? = some '\x7b' := by
  have members : ∃ member rest, document.toJson = .object (member :: rest) := ⟨_, _, rfl⟩
  obtain ⟨member, rest, shape⟩ := members
  rw [OpenApi.Document.render, shape, Json.Value.pretty]
  simp [String.toList_append]

namespace Docs

def viewerDirectory : String := "docs_assets"

theorem page_pieces : Path.pieces pageFile = [viewerDirectory, "index.html"] := by decide

/-- The pieces of the viewer's files. -/
def bundleNames : List (List String) :=
  [moduleFile, pageFile, styleFile, scriptFile].map Path.pieces

theorem bundle_names_eq : bundleNames = [
    [moduleFile],
    [viewerDirectory, "index.html"],
    [viewerDirectory, "viewer.css"],
    [viewerDirectory, "viewer.js"]] := by decide

end Docs

/-- What is known of artifacts that were compiled with a configuration. -/
structure Artifacts.Regular (artifacts : Artifacts) (config : Config) : Prop where
  output : Config.isFileName config.openapiOutput = true
  source : artifacts.source.toList.head? = some '/'
  openapi : ∀ text ∈ artifacts.openapi, text.toList.head? = some '\x7b'
  docs : ∀ files ∈ artifacts.docs, ∃ module page,
    files = Docs.filesOf module page ∧ module.toList.head? = some '/'

theorem Config.output_of_validated {config checked : Config}
    (accepted : config.validated = .ok checked) :
    Config.isFileName config.openapiOutput = true := by
  obtain ⟨_, _, _, _, named, _⟩ := Config.validated_ok_iff.mp accepted
  exact named

theorem regular_of_compile {manifest : Manifest} {config : Config} {artifacts : Artifacts}
    (compiled : compile manifest config = .ok artifacts) : artifacts.Regular config := by
  obtain ⟨checked, accepted, validated, _⟩ := compile_ok_iff.mp compiled
  obtain ⟨source, document, docs, makes, made⟩ := compile_makes accepted validated
  rw [compiled] at made
  cases made
  refine ⟨Config.output_of_validated accepted, ?_, ?_, ?_⟩
  · obtain ⟨module, _, filled⟩ := bind_ok_iff.mp makes.source
    exact slash_of_fill rfl filled
  · intro text written
    split_ifs at written
    · cases written
      exact OpenApi.render_begins document
    · cases written
  · intro files bundled
    cases bundled
    obtain ⟨module, page, filled, shape⟩ := Docs.bundle_eq checked
    have same := Except.ok.inj (makes.docs.symm.trans shape)
    split_ifs at same
    exact ⟨module, page, Option.some.inj same, slash_of_fill rfl filled⟩

namespace CommandLine

variable {options : Options} {config : Config} {artifacts : Artifacts}

/-! ### The names of the files -/

/-- The document's file has the name of another file that is written, or of the directory in which
the viewer's files lie. -/
def Collides (config : Config) (artifacts : Artifacts) : Prop :=
  artifacts.openapi.isSome ∧
    (config.openapiOutput = defaultSourceFile ∨
      artifacts.docs.isSome ∧
        (config.openapiOutput = Docs.moduleFile ∨ config.openapiOutput = Docs.viewerDirectory))

/-- The document's file has a name that a file can have. -/
def Storable (config : Config) (artifacts : Artifacts) : Prop :=
  artifacts.openapi.isSome → Path.isStorable config.openapiOutput = true

theorem file_name_pieces {name : String} (checked : Config.isFileName name = true) :
    Path.pieces name = [name] ∧ Path.isVoid name = false ∧ name ≠ ".." := by
  simp only [Config.isFileName, Bool.and_eq_true, Bool.not_eq_true', decide_eq_true_eq,
    List.any_eq_false, Bool.or_eq_true, not_or] at checked
  obtain ⟨⟨⟨some, whole⟩, current⟩, down⟩ := checked
  refine ⟨Path.pieces_whole fun slash => (whole _ slash).1 rfl, ?_, down⟩
  simpa [Path.isVoid, current] using some

theorem output_named (regular : artifacts.Regular config)
    (stored : Path.isStorable config.openapiOutput = true) : Path.IsName config.openapiOutput := by
  obtain ⟨_, named, down⟩ := file_name_pieces regular.output
  exact ⟨named, down, stored⟩

theorem source_named : Path.IsName defaultSourceFile := ⟨by decide, by decide, by decide⟩

theorem source_pieces : Path.pieces defaultSourceFile = [defaultSourceFile] := by decide

theorem source_names (source : String) :
    BundleFile.names ⟨defaultSourceFile, source⟩ = [defaultSourceFile] := source_pieces

theorem outputs_names (usual : options.sourceFile = defaultSourceFile)
    (regular : artifacts.Regular config) :
    (outputs options config artifacts).map BundleFile.names =
      [defaultSourceFile]
        :: (artifacts.openapi.map fun _ => [config.openapiOutput]).toList
        ++ if artifacts.docs.isSome then Docs.bundleNames else [] := by
  have own := (file_name_pieces regular.output).1
  obtain ⟨source, openapi, docs⟩ := artifacts
  cases openapi <;> cases docs with
  | none => simp [outputs, usual, source_pieces, BundleFile.names, own]
  | some files =>
      obtain ⟨module, page, rfl, _⟩ := regular.docs files rfl
      simp [outputs, usual, source_pieces, BundleFile.names, own, Docs.filesOf, Docs.bundleNames]

theorem viewer_named : Path.IsName Docs.viewerDirectory := ⟨by decide, by decide, by decide⟩

theorem bundle_names_short : ∀ names ∈ Docs.bundleNames, Path.IsShort names := by
  have module : Path.IsName Docs.moduleFile := ⟨by decide, by decide, by decide⟩
  have page : Path.IsName "index.html" := ⟨by decide, by decide, by decide⟩
  have style : Path.IsName "viewer.css" := ⟨by decide, by decide, by decide⟩
  have script : Path.IsName "viewer.js" := ⟨by decide, by decide, by decide⟩
  rw [Docs.bundle_names_eq]
  simp only [List.forall_mem_cons]
  exact ⟨.file module, .nested viewer_named page, .nested viewer_named style,
    .nested viewer_named script, nofun⟩

theorem outputs_short (usual : options.sourceFile = defaultSourceFile)
    (regular : artifacts.Regular config) (stored : Storable config artifacts) :
    ∀ file ∈ outputs options config artifacts, Path.IsShort file.names := by
  rw [← List.forall_mem_map (P := Path.IsShort), outputs_names usual regular]
  intro names listed
  rw [List.cons_append, List.mem_cons, List.mem_append] at listed
  rcases listed with rfl | document | viewer
  · exact .file source_named
  · rw [Option.mem_toList, Option.map_eq_some_iff] at document
    obtain ⟨text, made, rfl⟩ := document
    exact .file (output_named regular (stored (Option.isSome_of_mem made)))
  · split_ifs at viewer
    · exact bundle_names_short names viewer
    · cases viewer

theorem apart_iff {name other : String} {rest : List String} :
    Apart [name] (other :: rest) ↔ name ≠ other := by
  simp only [Apart, List.cons_prefix_cons]
  constructor
  · rintro parts rfl
    exact parts.1 ⟨rfl, List.nil_prefix⟩
  · exact fun different => ⟨fun parts => different parts.1, fun parts => different parts.1.symm⟩

theorem bundle_names_apart : (([defaultSourceFile] :: Docs.bundleNames).Pairwise Apart) := by
  rw [Docs.bundle_names_eq]
  unfold Apart
  decide

theorem apart_from_bundle {name : String} (module : name ≠ Docs.moduleFile)
    (viewer : name ≠ Docs.viewerDirectory) : ∀ names ∈ Docs.bundleNames, Apart [name] names := by
  rw [Docs.bundle_names_eq]
  simp only [List.forall_mem_cons, apart_iff]
  exact ⟨module, viewer, viewer, viewer, nofun⟩

theorem outputs_apart (usual : options.sourceFile = defaultSourceFile)
    (regular : artifacts.Regular config) (clear : ¬Collides config artifacts) :
    ((outputs options config artifacts).map BundleFile.names).Pairwise Apart := by
  rw [outputs_names usual regular]
  have bundle := List.pairwise_cons.mp bundle_names_apart
  obtain ⟨source, openapi, docs⟩ := artifacts
  cases openapi with
  | none =>
      cases docs with
      | none => exact List.pairwise_singleton _ _
      | some files => exact bundle_names_apart
  | some text =>
      simp only [Collides, Option.isSome_some, true_and, not_or, not_and] at clear
      have alone : Apart [defaultSourceFile] [config.openapiOutput] :=
        apart_iff.mpr (Ne.symm clear.1)
      cases docs with
      | none => simp [alone]
      | some files =>
          have beside := apart_from_bundle (clear.2 rfl).1 (clear.2 rfl).2
          simp only [Option.map_some, Option.toList_some, Option.isSome_some, if_true,
            List.cons_append, List.nil_append, List.pairwise_cons, List.forall_mem_cons]
          exact ⟨⟨alone, bundle.1⟩, beside, bundle.2⟩

theorem outputs_cons (usual : options.sourceFile = defaultSourceFile) (config : Config)
    (artifacts : Artifacts) : ∃ rest, outputs options config artifacts =
      ⟨defaultSourceFile, artifacts.source⟩ :: rest := by
  rw [outputs, usual]
  exact ⟨_, rfl⟩

end CommandLine

end ApiCompiler
