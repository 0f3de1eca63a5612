import ApiCompiler.Proofs.ArtifactFiles
import ApiCompiler.Proofs.ByteOrder

/-!
What a run of the generator leaves behind in an empty directory. Nothing is written before all is
compiled, so a run that fails to compile leaves no file. What is compiled can always be written, and
is all there afterwards, unless the document's file has the name of another file or of the directory
in which the viewer's files lie, or a name that no file can have.
-/

set_option autoImplicit false

namespace ApiCompiler

namespace CommandLine

variable {tree : FileTree} {options : Options} {config : Config} {artifacts : Artifacts}

/-! ### Compiling -/

/-- An action leaves the files as they are. -/
def ReadsOnly {α : Type} (action : StateM FileTree α) : Prop := ∀ tree, (action.run tree).2 = tree

theorem reads_return {α : Type} (value : α) : ReadsOnly (pure value) := fun _ => rfl

theorem reads_then {α β : Type} {first : StateM FileTree α} {next : α → StateM FileTree β}
    (begins : ReadsOnly first) (continues : ∀ value, ReadsOnly (next value)) :
    ReadsOnly (first >>= next) := by
  intro tree
  rw [StateT.run_bind]
  exact (continues _ _).trans (begins tree)

theorem reads_text (path : String) : ReadsOnly (FileTree.system.readText path) := by
  refine reads_then (fun _ => rfl) fun outcome => ?_
  split
  · exact reads_return _
  · split <;> exact reads_return _

theorem reads_manifest (path : String) : ReadsOnly (Manifest.load FileTree.system path) := by
  refine reads_then (reads_text path) fun outcome => ?_
  split <;> exact reads_return _

theorem reads_config (path : Option String) :
    ReadsOnly (loadConfig FileTree.system path).run := by
  cases path with
  | none => exact reads_return _
  | some path =>
      refine reads_then (reads_then (reads_text path) fun outcome => ?_) fun _ => reads_return _
      split <;> exact reads_return _

theorem attempting_run {α : Type} (attempt : String) (result : StateM FileTree (Except Error α))
    (tree : FileTree) : (attempting attempt result).run.run tree =
      ((result.run tree).1.mapError (.ofError attempt), (result.run tree).2) := rfl

theorem read_text_ok {path text : String} {bytes : List UInt8} (found : tree.read path = .ok bytes)
    (decoded : Text.ofUtf8? bytes = some text) :
    (FileTree.system.readText path).run tree = (.ok text, tree) := by
  have read : (FileTree.system.read path).run tree = (.ok bytes, tree) :=
    congrArg (Prod.mk · tree) found
  rw [FileSystem.readText, StateT.run_bind, read]
  simp only [bind, decoded]
  rfl

theorem load_manifest_ok {path text : String} {bytes : List UInt8} {manifest : Manifest}
    (found : tree.read path = .ok bytes) (decoded : Text.ofUtf8? bytes = some text)
    (parsed : Manifest.parse text = .ok manifest) :
    (Manifest.load FileTree.system path).run tree = (.ok manifest, tree) := by
  rw [Manifest.load, StateT.run_bind, read_text_ok found decoded]
  change (((Manifest.parse text).mapError _, tree) : Except Error Manifest × FileTree) = _
  rw [parsed]
  rfl

theorem load_config_ok {path text : String} {bytes : List UInt8} {format : ConfigFormat}
    (found : tree.read path = .ok bytes) (decoded : Text.ofUtf8? bytes = some text)
    (named : ConfigFormat.ofPath path = .ok format) (parsed : format.parse text = .ok config) :
    (loadConfig FileTree.system (some path)).run.run tree = (.ok config, tree) := by
  have loaded : (Config.load FileTree.system path).run tree = (.ok config, tree) := by
    rw [Config.load, StateT.run_bind, read_text_ok found decoded, named]
    exact congrArg (Prod.mk · tree) parsed
  rw [loadConfig, attempting_run, loaded]
  rfl

theorem run_of_reads {α : Type} {action : StateM FileTree α} (reads : ReadsOnly action)
    (tree : FileTree) : action.run tree = ((action.run tree).1, tree) :=
  Prod.ext rfl (reads tree)

/-- What a run compiles: the manifest and the configuration that it reads, and what they make. -/
def Compiles (tree : FileTree) (options : Options) (config : Config) (artifacts : Artifacts) :
    Prop :=
  ∃ manifest given,
    (Manifest.load FileTree.system options.manifest).run tree = (.ok manifest, tree) ∧
    (loadConfig FileTree.system options.config).run.run tree = (.ok given, tree) ∧
    config = options.adjust given ∧ compile manifest config = .ok artifacts

theorem Compiles.regular (compiles : Compiles tree options config artifacts) :
    artifacts.Regular config := by
  obtain ⟨_, _, _, _, _, compiled⟩ := compiles
  exact regular_of_compile compiled

theorem Compiles.unique {config' : Config} {artifacts' : Artifacts}
    (one : Compiles tree options config artifacts)
    (other : Compiles tree options config' artifacts') :
    config = config' ∧ artifacts = artifacts' := by
  obtain ⟨manifest, given, read, loaded, rfl, compiled⟩ := one
  obtain ⟨manifest', given', read', loaded', rfl, compiled'⟩ := other
  cases read.symm.trans read'
  cases loaded.symm.trans loaded'
  exact ⟨rfl, Except.ok.inj (compiled.symm.trans compiled')⟩

/-- What is compiled is written. -/
theorem Compiles.generates (compiles : Compiles tree options config artifacts) :
    (generate FileTree.system options).run.run tree =
      (writeOutputs FileTree.system options.outputDir
        (outputs options config artifacts)).run.run tree := by
  obtain ⟨manifest, given, read, loaded, rfl, compiled⟩ := compiles
  rw [generate, then_run, attempting_run, read]
  dsimp only [Except.mapError]
  rw [then_run, loaded]
  dsimp only
  rw [then_run, attempting_run, compiled]
  rfl

/-- Where nothing is compiled, nothing is written. -/
theorem generate_fails (none : ∀ config artifacts, ¬Compiles tree options config artifacts) :
    ∃ failure, (generate FileTree.system options).run.run tree = (.error failure, tree) := by
  have read := run_of_reads (reads_manifest options.manifest) tree
  have loaded := run_of_reads (reads_config options.config) tree
  rw [generate, then_run, attempting_run, read]
  generalize ((Manifest.load FileTree.system options.manifest).run tree).1 = outcome at read
  cases outcome with
  | error error => exact ⟨_, rfl⟩
  | ok manifest =>
      dsimp only [Except.mapError]
      rw [then_run, loaded]
      generalize ((loadConfig FileTree.system options.config).run.run tree).1 = outcome at loaded
      cases outcome with
      | error failure => exact ⟨_, rfl⟩
      | ok given =>
          dsimp only
          rw [then_run, attempting_run]
          cases compiled : compile manifest (options.adjust given) with
          | error error => exact ⟨_, rfl⟩
          | ok artifacts =>
              exact absurd ⟨manifest, given, read, loaded, rfl, compiled⟩ (none _ _)

end CommandLine

/-! ### The directory -/

/-- A directory that can be made, or is there already, and in which nothing lies. -/
structure FileTree.MakesEmpty (tree opened : FileTree) (directory : String) (place : List String) :
    Prop where
  made : tree.createDirectories directory = .ok opened
  located : opened.locate directory = .ok place
  directory : opened.status place = .directory
  bare : ∀ names, names ≠ [] → opened.status (place ++ names) = .missing

namespace FileTree.MakesEmpty

variable {tree opened : FileTree} {directory : String} {place : List String}

theorem letters (empty : tree.MakesEmpty opened directory place) : directory ≠ "" := by
  rintro rfl
  cases empty.located

theorem opens (empty : tree.MakesEmpty opened directory place) :
    opened.Opens (Path.base directory) place := by
  have walked := empty.located
  rw [locate, if_neg (by simpa [String.isEmpty_iff] using empty.letters)] at walked
  have whole : opened.Opens (Path.pieces directory) place := ⟨walked, empty.directory⟩
  rcases (Path.base_cases empty.letters).2 with same | longer
  · rwa [same] at whole
  · rw [longer] at whole
    exact (opens_append_void_iff (by decide)).mp whole

theorem room (empty : tree.MakesEmpty opened directory place) {names : List String}
    (filled : names ≠ []) : opened.Room place names := by
  constructor
  · rw [empty.bare names filled]
    exact nofun
  · intro front _ contents found
    by_cases none : front = []
    · rw [none, List.append_nil, empty.directory] at found
      cases found
    · rw [empty.bare front none] at found
      cases found

end FileTree.MakesEmpty

namespace CommandLine

variable {tree opened after : FileTree} {options : Options} {config : Config}
  {artifacts : Artifacts} {directory : String} {place : List String}

/-- The first file makes the directory; nothing else is different if it is there before. -/
theorem writes_from_opened {file : BundleFile} {name : String}
    (empty : tree.MakesEmpty opened directory place) (single : file.names = [name])
    (own : Path.IsName name) (rest : List BundleFile) :
    (writeOutputs FileTree.system directory (file :: rest)).run.run tree =
      (writeOutputs FileTree.system directory (file :: rest)).run.run opened := by
  have above := parent_of_output empty.letters single own
  have made := create_parent_run above
    ((FileTree.create_directories_trimmed tree empty.letters).trans empty.made)
  have again := create_parent_run above (create_base empty.letters empty.opens)
  simp only [writeOutputs, writeOutput, then_run, made, again]

/-- Whatever is compiled is written, if the document's file has a name of its own, and can have
it. -/
theorem all_written (usual : options.sourceFile = defaultSourceFile)
    (empty : tree.MakesEmpty opened options.outputDir place) (regular : artifacts.Regular config)
    (clear : ¬Collides config artifacts) (stored : Storable config artifacts) :
    ∃ after, (writeOutputs FileTree.system options.outputDir
        (outputs options config artifacts)).run.run tree = (.ok (), after) ∧
      ∀ file ∈ outputs options config artifacts,
        after.read (Path.join options.outputDir file.path) = .ok file.bytes := by
  have short := outputs_short usual regular stored
  have room : ∀ file ∈ outputs options config artifacts, opened.Room place file.names := by
    intro file listed
    obtain ⟨front, name, shape, _⟩ := (short file listed).last
    exact empty.room (by simp [shape])
  obtain ⟨after, written, _, _, found⟩ :=
    write_outputs_run empty.letters empty.opens short (outputs_apart usual regular clear) room
  obtain ⟨rest, shape⟩ := outputs_cons usual config artifacts
  refine ⟨after, ?_, found⟩
  rw [shape] at written ⊢
  rw [writes_from_opened empty (source_names _) source_named]
  exact written

/-- Once anything is compiled, a file is written, and it stays whatever happens to the others. -/
theorem something_written (usual : options.sourceFile = defaultSourceFile)
    (empty : tree.MakesEmpty opened options.outputDir place) (config : Config)
    (artifacts : Artifacts) : ((writeOutputs FileTree.system options.outputDir
      (outputs options config artifacts)).run.run tree).2.files ≠ tree.files := by
  obtain ⟨rest, shape⟩ := outputs_cons usual config artifacts
  have single := source_names artifacts.source
  have short : Path.IsShort (BundleFile.names ⟨defaultSourceFile, artifacts.source⟩) :=
    single.symm ▸ .file source_named
  have filled : [defaultSourceFile] ≠ [] := List.cons_ne_nil _ _
  have room := empty.room filled
  rw [← single] at room
  obtain ⟨made, written, _, alike, _⟩ := write_output_step empty.letters empty.opens short room
  have there : (made.files.lookup (place ++ [defaultSourceFile])).isSome := by
    have status := alike (place ++ [defaultSourceFile])
    rw [single, FileTree.status_put_file, if_pos rfl, FileTree.status_file_iff] at status
    rw [status]
    rfl
  have absent : tree.files.lookup (place ++ [defaultSourceFile]) = none := by
    rw [← FileTree.create_directories_files empty.made]
    exact (FileTree.status_missing_iff.mp (empty.bare _ filled)).1
  have stays := retains_writes options.outputDir rest made _ there
  intro same
  rw [shape, writes_from_opened empty single source_named, writeOutputs, then_run, written] at same
  rw [same, absent] at stays
  cases stays

/-! ### All or nothing -/

/-- Either a run succeeds, and all that was compiled is found in full where it belongs, or it fails,
and no file is there that was not there before. -/
def AllOrNothing (tree : FileTree) (options : Options) : Prop :=
  ∃ outcome after, (run FileTree.system (.generate options)).run tree = (outcome, after) ∧
    (outcome.code = 0 ∧ (∃ config artifacts, Compiles tree options config artifacts ∧
        ∀ file ∈ outputs options config artifacts,
          after.read (Path.join options.outputDir file.path) = .ok file.bytes) ∨
      outcome.code ≠ 0 ∧ after.files = tree.files)

theorem run_generate (tree : FileTree) (options : Options) :
    (run FileTree.system (.generate options)).run tree =
      match (generate FileTree.system options).run.run tree with
      | (.ok (), after) => (⟨0, none⟩, after)
      | (.error failure, after) => (⟨1, some failure.report⟩, after) := by
  rw [run, StateT.run_bind]
  obtain ⟨result, after⟩ := (generate FileTree.system options).run.run tree
  cases result <;> rfl

theorem run_generate_tree (tree : FileTree) (options : Options) :
    ((run FileTree.system (.generate options)).run tree).2 =
      ((generate FileTree.system options).run.run tree).2 := by
  rw [run_generate]
  obtain ⟨result, after⟩ := (generate FileTree.system options).run.run tree
  cases result <;> rfl

/-- Two files of one name that begin differently cannot both be found. -/
theorem not_same_name {directory : String} {file other : BundleFile} (same : file.path = other.path)
    (different : file.contents.toList.head? ≠ other.contents.toList.head?)
    (found : after.read (Path.join directory file.path) = .ok file.bytes) :
    after.read (Path.join directory other.path) ≠ .ok other.bytes := by
  intro found'
  rw [same, found'] at found
  rw [Text.to_utf8_injective (Except.ok.inj found)] at different
  exact different rfl

/-- A file cannot be found where a directory has to be for another one. -/
theorem not_below_file {directory path path' above name : String} {bytes bytes' : List UInt8}
    (upper : Path.pieces path = [above]) (lower : Path.pieces path' = [above, name])
    (own : Path.IsName above) (own' : Path.IsName name)
    (found : after.read (Path.join directory path) = .ok bytes) :
    after.read (Path.join directory path') ≠ .ok bytes' := by
  intro found'
  have short : Path.IsShort (Path.pieces path) := upper.symm ▸ .file own
  have short' : Path.IsShort (Path.pieces path') := lower.symm ▸ .nested own own'
  have whole := Path.pieces_join (Path.relative_of_short short) directory
  have whole' := Path.pieces_join (Path.relative_of_short short') directory
  obtain ⟨_, place, walked, file⟩ := FileTree.read_ok_iff.mp found
  obtain ⟨_, place', walked', _⟩ := FileTree.read_ok_iff.mp found'
  rw [whole, upper] at walked
  rw [whole', lower, List.append_cons] at walked'
  obtain ⟨between, walked'', _, followed⟩ := FileTree.walk_append_iff.mp walked'
  rw [walked] at walked''
  cases walked''
  obtain ⟨directory, _⟩ := (FileTree.follow_name_iff own'.named own'.down).mp followed
  rw [file] at directory
  cases directory

theorem missed_of_collides (usual : options.sourceFile = defaultSourceFile)
    (regular : artifacts.Regular config) (collides : Collides config artifacts) :
    ¬∀ file ∈ outputs options config artifacts,
      after.read (Path.join options.outputDir file.path) = .ok file.bytes := by
  intro found
  obtain ⟨source, openapi, docs⟩ := artifacts
  obtain ⟨given, collides⟩ := collides
  obtain ⟨text, rfl⟩ := Option.isSome_iff_exists.mp given
  have document := found ⟨config.openapiOutput, text⟩ (by simp [outputs])
  have brace := regular.openapi text rfl
  rcases collides with same | ⟨viewer, same⟩
  · have module := found ⟨options.sourceFile, source⟩ List.mem_cons_self
    refine not_same_name (usual.trans same.symm) ?_ module document
    simp [regular.source, brace]
  · obtain ⟨files, rfl⟩ := Option.isSome_iff_exists.mp viewer
    obtain ⟨module, page, rfl, slash⟩ := regular.docs files rfl
    rcases same with same | same
    · have server := found ⟨Docs.moduleFile, module⟩ (by simp [outputs, Docs.filesOf])
      refine not_same_name same.symm ?_ server document
      simp [slash, brace]
    · have shown := found ⟨Docs.pageFile, page⟩ (by simp [outputs, Docs.filesOf])
      obtain ⟨upper, _⟩ := file_name_pieces regular.output
      exact not_below_file upper (same ▸ Docs.page_pieces) (same ▸ viewer_named)
        ⟨by decide, by decide, by decide⟩ document shown

/-- A file cannot be found by a name that no file can have. -/
theorem missed_of_not_storable (regular : artifacts.Regular config)
    (thwarted : ¬Storable config artifacts) :
    ¬∀ file ∈ outputs options config artifacts,
      after.read (Path.join options.outputDir file.path) = .ok file.bytes := by
  intro found
  obtain ⟨source, openapi, docs⟩ := artifacts
  rw [Storable, Classical.not_imp] at thwarted
  obtain ⟨given, unstorable⟩ := thwarted
  obtain ⟨text, rfl⟩ := Option.isSome_iff_exists.mp given
  have document := found ⟨config.openapiOutput, text⟩ (by simp [outputs])
  obtain ⟨single, named, down⟩ := file_name_pieces regular.output
  have relative : Path.isRooted config.openapiOutput = false := by
    apply Path.relative_of_first
    rw [single]
    exact fun first => absurd named (by simp [Option.some.inj first, Path.isVoid])
  obtain ⟨_, place, walked, _⟩ := FileTree.read_ok_iff.mp document
  rw [Path.pieces_join relative, single] at walked
  obtain ⟨between, _, noNul, followed⟩ := FileTree.walk_append_iff.mp walked
  obtain ⟨_, short, _⟩ := (FileTree.follow_name_iff named down).mp followed
  exact unstorable (Path.storable_iff.mpr ⟨noNul _ List.mem_cons_self, short⟩)

/-- A run that compiles what cannot all be there in the end either fails with files left behind, or
succeeds with one of them lost. -/
theorem not_all_or_nothing (usual : options.sourceFile = defaultSourceFile)
    (empty : tree.MakesEmpty opened options.outputDir place)
    (compiles : Compiles tree options config artifacts)
    (missed : ∀ after : FileTree, ¬∀ file ∈ outputs options config artifacts,
      after.read (Path.join options.outputDir file.path) = .ok file.bytes) :
    ¬AllOrNothing tree options := by
  rintro ⟨outcome, after, ran, ⟨_, config', artifacts', compiles', found⟩ | ⟨_, same⟩⟩
  · obtain ⟨rfl, rfl⟩ := compiles.unique compiles'
    exact missed after found
  · have left := something_written usual empty config artifacts
    rw [← compiles.generates, ← run_generate_tree, ran] at left
    exact left same

theorem all_or_nothing_of_clear (usual : options.sourceFile = defaultSourceFile)
    (empty : tree.MakesEmpty opened options.outputDir place)
    (clear : ∀ config artifacts, Compiles tree options config artifacts →
      ¬Collides config artifacts ∧ Storable config artifacts) : AllOrNothing tree options := by
  by_cases compiled : ∃ config artifacts, Compiles tree options config artifacts
  · obtain ⟨config, artifacts, compiles⟩ := compiled
    obtain ⟨apart, stored⟩ := clear config artifacts compiles
    obtain ⟨after, written, found⟩ := all_written usual empty compiles.regular apart stored
    refine ⟨⟨0, none⟩, after, ?_, .inl ⟨rfl, config, artifacts, compiles, found⟩⟩
    rw [run_generate, compiles.generates, written]
  · simp only [not_exists] at compiled
    obtain ⟨failure, failed⟩ := generate_fails compiled
    refine ⟨⟨1, some failure.report⟩, tree, ?_, .inr ⟨Nat.one_ne_zero, rfl⟩⟩
    rw [run_generate, failed]

/-- A run in an empty directory is all or nothing just when what it compiles does not collide, and
the document's file can have its name. -/
theorem all_or_nothing_iff (usual : options.sourceFile = defaultSourceFile)
    (empty : tree.MakesEmpty opened options.outputDir place) :
    AllOrNothing tree options ↔
      ∀ config artifacts, Compiles tree options config artifacts →
        ¬Collides config artifacts ∧ Storable config artifacts := by
  constructor
  · intro either config artifacts compiles
    by_contra thwarted
    refine not_all_or_nothing usual empty compiles (fun after => ?_) either
    rcases not_and_or.mp thwarted with collides | unstorable
    · exact missed_of_collides usual compiles.regular (not_not.mp collides)
    · exact missed_of_not_storable compiles.regular unstorable
  · exact all_or_nothing_of_clear usual empty

def sampleManifestText : String := "\x7b\"endpoints\":[]\x7d"

def sampleConfigText : String := "\x7b\"openapi_output\":\"docs_assets\"\x7d"

def sampleTree : FileTree where
  files := [
    (["m.json"], Text.toUtf8 sampleManifestText),
    (["c.json"], Text.toUtf8 sampleConfigText)]
  directories := []

def sampleOptions (config : Option String) : Options where
  manifest := "m.json"
  config := config
  outputDir := "out"
  sourceFile := defaultSourceFile
  openapi := true
  docs := true

theorem sample_makes_empty :
    sampleTree.MakesEmpty (sampleTree.withDirectory ["out"]) "out" ["out"] where
  made := rfl
  located := rfl
  directory := rfl
  bare := by
    intro names filled
    rw [FileTree.status_missing_iff]
    obtain ⟨first, rest, rfl⟩ := List.exists_cons_of_ne_nil filled
    simp [FileTree.Leads, FileTree.withDirectory, sampleTree, FileTree.isAbove, List.lookup]

theorem sample_compiles {path : Option String} {given checked : Config}
    (loaded : (loadConfig FileTree.system path).run.run sampleTree = (.ok given, sampleTree))
    (accepted : ((sampleOptions path).adjust given).validated = .ok checked) :
    ∃ source document docs, Makes Manifest.empty checked source document docs ∧
      Compiles sampleTree (sampleOptions path) ((sampleOptions path).adjust given)
        ⟨source, if checked.openapiEnabled then some document.render else none, docs⟩ := by
  have decoded : Text.ofUtf8? (Text.toUtf8 sampleManifestText) = some sampleManifestText := by
    rw [Text.to_utf8_eq]
    rfl
  have parsed : Manifest.parse sampleManifestText = .ok Manifest.empty := by cbv
  have validated : Manifest.empty.validate = .ok () := by cbv
  have read : (Manifest.load FileTree.system "m.json").run sampleTree = _ :=
    load_manifest_ok rfl decoded parsed
  obtain ⟨source, document, docs, makes, compiled⟩ := compile_makes accepted validated
  exact ⟨source, document, docs, makes, _, given, read, loaded, rfl, compiled⟩

theorem sample_all_or_nothing :
    sampleTree.MakesEmpty (sampleTree.withDirectory ["out"]) "out" ["out"] ∧
      (∃ config artifacts, Compiles sampleTree (sampleOptions none) config artifacts) ∧
      AllOrNothing sampleTree (sampleOptions none) := by
  have accepted : ((sampleOptions none).adjust {}).validated = .ok Config.plainViewer := by decide
  obtain ⟨_, _, _, _, compiles⟩ := sample_compiles rfl accepted
  refine ⟨sample_makes_empty, ⟨_, _, compiles⟩,
    (all_or_nothing_iff rfl sample_makes_empty).mpr fun config artifacts compiles' => ?_⟩
  obtain ⟨rfl, _⟩ := compiles.unique compiles'
  refine ⟨fun collides => ?_, fun _ => by decide⟩
  rcases collides.2 with same | ⟨_, same | same⟩ <;> exact absurd same (by decide)

/-- The document's file is named as the directory of the viewer's files is. -/
def takenConfig : Config := { openapiOutput := Docs.viewerDirectory }

theorem taken_config_loaded :
    (loadConfig FileTree.system (some "c.json")).run.run sampleTree =
      (.ok takenConfig, sampleTree) := by
  have decoded : Text.ofUtf8? (Text.toUtf8 sampleConfigText) = some sampleConfigText := by
    rw [Text.to_utf8_eq]
    rfl
  have parsed : ConfigFormat.json.parse sampleConfigText = .ok takenConfig := by cbv
  exact load_config_ok rfl decoded rfl parsed

/-- The document takes the place of the directory, so the viewer's page cannot be written. -/
theorem viewer_directory_taken :
    sampleTree.MakesEmpty (sampleTree.withDirectory ["out"]) "out" ["out"] ∧
      ¬AllOrNothing sampleTree (sampleOptions (some "c.json")) := by
  have accepted : ((sampleOptions (some "c.json")).adjust takenConfig).validated =
      .ok { Config.plainViewer with openapiOutput := Docs.viewerDirectory } := by decide
  obtain ⟨source, document, docs, makes, compiles⟩ :=
    sample_compiles taken_config_loaded accepted
  obtain ⟨_, _, _, bundled⟩ :=
    Docs.bundle_eq { Config.plainViewer with openapiOutput := Docs.viewerDirectory }
  have viewer : docs.isSome := by
    rw [Except.ok.inj (makes.docs.symm.trans bundled)]
    rfl
  exact ⟨sample_makes_empty,
    not_all_or_nothing rfl sample_makes_empty compiles fun _ =>
      missed_of_collides rfl compiles.regular ⟨rfl, .inr ⟨viewer, .inr rfl⟩⟩⟩

end CommandLine

end ApiCompiler
