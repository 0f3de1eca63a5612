import ApiCompiler.Compile
import ApiCompiler.Proofs.Checks
import Mathlib.Data.List.DropRight

/-!
Checking a configuration settles it. What the check gives passes the check unchanged: the implied
options are there already, and the route of the viewer has no slashes left to lose.
-/

set_option autoImplicit false

namespace ApiCompiler.Config

variable {given config : Config} {path docsPath : String}

/-- A route that begins with a slash and does not end with one. -/
def IsRoute (path : String) : Prop :=
  path.toList.head? = some '/' ∧ path.toList.getLast? ≠ some '/'

instance : DecidablePred IsRoute := fun _ => inferInstanceAs (Decidable (_ ∧ _))

/-! ### Routes -/

theorem trim_slashes_eq (path : String) :
    trimSlashes path = String.ofList (path.toList.rdropWhile (· = '/')) := rfl

/-- Only slashes are taken from the end of a path. -/
theorem trim_slashes_append (path : String) :
    ∃ count, path = trimSlashes path ++ String.ofList (List.replicate count '/') := by
  have slashes : ∀ letter ∈ path.toList.rtakeWhile (· = '/'), letter = '/' := by
    intro letter listed
    simpa using List.mem_rtakeWhile_imp listed
  refine ⟨(path.toList.rtakeWhile (· = '/')).length, ?_⟩
  rw [← List.eq_replicate_of_mem slashes, trim_slashes_eq, ← String.ofList_append,
    List.rdropWhile_append_rtakeWhile, String.ofList_toList]

theorem trim_slashes_last (path : String) : (trimSlashes path).toList.getLast? ≠ some '/' := by
  rw [trim_slashes_eq, String.toList_ofList]
  intro last
  have filled : path.toList.rdropWhile (· = '/') ≠ [] := by
    intro nothing
    rw [nothing] at last
    cases last
  rw [List.getLast?_eq_some_getLast filled, Option.some.injEq] at last
  exact List.rdropWhile_last_not _ _ filled (by simpa using last)

theorem trim_slashes_of_last (ends : path.toList.getLast? ≠ some '/') :
    trimSlashes path = path := by
  have kept : path.toList.rdropWhile (· = '/') = path.toList := by
    apply List.rdropWhile_eq_self_iff.mpr
    intro filled last
    exact ends (by rw [List.getLast?_eq_some_getLast filled, of_decide_eq_true last])
  rw [trim_slashes_eq, kept, String.ofList_toList]

theorem check_docs_path_ok_iff :
    checkDocsPath path = .ok docsPath ↔
      path.toList.head? = some '/' ∧ docsPath = trimSlashes path ∧ docsPath ≠ "" := by
  unfold checkDocsPath
  split_ifs <;> grind [isRooted, String.isEmpty_iff]

/-- A route from which the slashes at the end were taken is one that has none to lose. -/
theorem docs_path_checked (accepted : checkDocsPath path = .ok docsPath) :
    IsRoute docsPath ∧ checkDocsPath docsPath = .ok docsPath := by
  obtain ⟨rooted, rfl, filled⟩ := check_docs_path_ok_iff.mp accepted
  have route : (trimSlashes path).toList.head? = some '/' := by
    obtain ⟨count, whole⟩ := trim_slashes_append path
    have letters : (trimSlashes path).toList ≠ [] := by simpa using filled
    obtain ⟨first, rest, shape⟩ := List.exists_cons_of_ne_nil letters
    rw [whole, String.toList_append, shape] at rooted
    simpa [shape] using rooted
  have last := trim_slashes_last path
  have nothing : trimSlashes path = trimSlashes (trimSlashes path) := (trim_slashes_of_last last).symm
  exact ⟨⟨route, last⟩, check_docs_path_ok_iff.mpr ⟨route, nothing, filled⟩⟩

theorem check_json_path_ok_iff :
    config.checkJsonPath path = .ok () ↔
      IsRoute path ∧ ¬(config.docsUiEnabled = true ∧ path = config.docsPath) := by
  unfold checkJsonPath
  split_ifs <;> grind [isRooted, IsRoute]

/-! ### The whole configuration -/

theorem with_implied_fields (given : Config) :
    given.withImplied.docsPath = given.docsPath ∧
      given.withImplied.openapiOutput = given.openapiOutput ∧
      given.withImplied.openapiServers = given.openapiServers := by
  unfold withImplied
  split_ifs <;> exact ⟨rfl, rfl, rfl⟩

/-- What the check asks for, and all that it changes. -/
theorem validated_ok_iff :
    given.validated = .ok config ↔
      ∃ docsPath, checkDocsPath given.docsPath = .ok docsPath ∧
        { given.withImplied with docsPath } = config ∧
        (∀ path ∈ config.openapiJsonPath, config.checkJsonPath path = .ok ()) ∧
        isFileName given.openapiOutput = true ∧
        ∀ server ∈ given.openapiServers, checkServer server = .ok () := by
  obtain ⟨docs, output, servers⟩ := with_implied_fields given
  unfold validated
  dsimp only
  rw [bind_ok_iff, docs, output, servers]
  refine exists_congr fun docsPath => and_congr_right fun _ => ?_
  rw [unit_bind_ok_iff, for_option_ok_iff]
  cases named : isFileName given.openapiOutput with
  | false => simp [bind, Except.bind, throw, throwThe, MonadExceptOf.throw]
  | true =>
      simp only [Bool.not_true, Bool.false_eq_true, if_false, true_and]
      rw [unit_bind_ok_iff, for_each_ok_iff]
      constructor
      · rintro ⟨route, urls, same⟩
        cases same
        exact ⟨rfl, route, urls⟩
      · rintro ⟨rfl, route, urls⟩
        exact ⟨route, urls, rfl⟩

/-- What options imply is there when it has been settled, whatever the route of the viewer. -/
theorem with_implied_again (given : Config) (docsPath : String) :
    { given.withImplied with docsPath }.withImplied = { given.withImplied with docsPath } := by
  unfold withImplied
  cases viewer : given.docsUiEnabled <;> simp [viewer]

theorem implied_of_viewer (viewer : given.withImplied.docsUiEnabled = true) :
    given.withImplied.openapiEnabled = true ∧
      ∃ path, given.withImplied.openapiJsonPath = some path := by
  unfold withImplied at viewer ⊢
  split_ifs at viewer ⊢
  · exact ⟨rfl, _, rfl⟩
  · contradiction

theorem with_implied_eq (given : Config) : given.withImplied = { given with
    openapiEnabled := given.withImplied.openapiEnabled
    openapiJsonPath := given.withImplied.openapiJsonPath } := by
  unfold withImplied
  split_ifs <;> rfl

/-- A checked configuration passes the check unchanged, so it compiles as the given one does. It
differs from that one in what a viewer implies and in the slashes at the end of the viewer's route;
its routes are such, and a viewer has a document at a route of its own. -/
theorem validated_settles (accepted : given.validated = .ok config) :
    config.validated = .ok config ∧
    config = { given with
      openapiEnabled := config.openapiEnabled
      openapiJsonPath := config.openapiJsonPath
      docsPath := config.docsPath } ∧
    (IsRoute config.docsPath ∧ config.docsPath ≠ "/") ∧
    (∃ count, given.docsPath = config.docsPath ++ String.ofList (List.replicate count '/')) ∧
    (∀ path ∈ config.openapiJsonPath, IsRoute path) ∧
    (config.docsUiEnabled = true → config.openapiEnabled = true ∧
      ∃ path, config.openapiJsonPath = some path ∧ path ≠ config.docsPath) ∧
    ∀ manifest, compile manifest given = compile manifest config := by
  obtain ⟨docsPath, trimmed, rfl, routes, output, servers⟩ := validated_ok_iff.mp accepted
  obtain ⟨_, sameOutput, sameServers⟩ := with_implied_fields given
  obtain ⟨route, again⟩ := docs_path_checked trimmed
  have settled : { given.withImplied with docsPath }.validated =
      .ok { given.withImplied with docsPath } := by
    apply validated_ok_iff.mpr
    refine ⟨docsPath, again, by rw [with_implied_again], routes, ?_, ?_⟩
    · rwa [sameOutput]
    · rwa [sameServers]
  refine ⟨settled, ?_, ⟨route, ?_⟩, ?_, ?_, ?_, ?_⟩
  · rw [with_implied_eq given]
  · rintro rfl
    exact absurd route (by decide)
  · obtain ⟨_, rfl, _⟩ := check_docs_path_ok_iff.mp trimmed
    exact trim_slashes_append given.docsPath
  · exact fun path set => (check_json_path_ok_iff.mp (routes path set)).1
  · intro viewer
    obtain ⟨enabled, path, set⟩ := implied_of_viewer viewer
    refine ⟨enabled, path, set, ?_⟩
    exact fun same => (check_json_path_ok_iff.mp (routes path set)).2 ⟨viewer, same⟩
  · intro manifest
    rw [compile, compile, accepted, settled]

/-- A viewer whose route ends with slashes, and a server of each kind. -/
def helpViewer : Config where
  openapiServers := ["https://api.example.org:8443/v1", "/v2"]
  docsUiEnabled := true
  docsPath := "/help//"

def helpViewerSettled : Config :=
  { helpViewer with
    openapiEnabled := true
    openapiJsonPath := some "/openapi.json"
    docsPath := "/help" }

theorem help_viewer_settles :
    helpViewer.validated = .ok helpViewerSettled ∧
    helpViewerSettled.validated = .ok helpViewerSettled ∧
    (∃ count, helpViewer.docsPath =
      helpViewerSettled.docsPath ++ String.ofList (List.replicate count '/')) ∧
    ∀ manifest, compile manifest helpViewer = compile manifest helpViewerSettled := by
  have accepted : helpViewer.validated = .ok helpViewerSettled := by decide +kernel
  obtain ⟨again, _, _, trimmed, _, _, compiled⟩ := validated_settles accepted
  exact ⟨accepted, again, trimmed, compiled⟩

/-- The configuration that differs from the default in having a viewer, checked. -/
def plainViewer : Config :=
  { openapiEnabled := true, openapiJsonPath := some defaultJsonPath, docsUiEnabled := true }

theorem plain_viewer_validated : plainViewer.validated = .ok plainViewer := by decide

end ApiCompiler.Config
