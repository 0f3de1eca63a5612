import ApiCompiler.Proofs.DerivedNames
import ApiCompiler.Validation.Manifest

/-!
Local names that are keywords. The local name of a handler package is written as it is, in the line
that imports the package and in the calls of its handlers, so a keyword cannot stand there. The
keywords that are no identifiers in any way are never local names; those that could be written raw
become local names just when they are the base of a package.
-/

set_option autoImplicit false

namespace ApiCompiler

namespace Text

/-- The keywords that cannot be written raw. -/
def pathKeywords : List String := ["self", "Self", "super", "crate"]

def keywords : List String := rawKeywords ++ pathKeywords

end Text

namespace BuildContext

variable {state : List Import × NameRegistry} {keyword base : String}

/-- The registry behind some imports knows nothing but the reserved names, those that were handed
out, and the bases of the packages. -/
structure InUse (state : List Import × NameRegistry) : Prop where
  handed_out : ∀ name ∈ state.2.taken,
    name ∈ reservedLocalNames ∨ name ∈ state.1.map (·.localName)
  bases : ∀ item ∈ state.1, defaultLocalName item.package ∈ state.2.taken

theorem InUse.add_import (use : InUse state) (package : String) :
    InUse (addImport state package) := by
  unfold addImport
  split_ifs
  · exact use
  · dsimp only [NameRegistry.claim]
    constructor
    · intro name taken
      rw [List.map_append, List.mem_append]
      rcases NameRegistry.mem_reserve_iff.mp taken with rfl | before
      · exact .inr (.inr (List.mem_singleton_self _))
      · exact (use.handed_out name before).imp_right .inl
    · refine List.forall_mem_append.mpr ⟨?_, List.forall_mem_singleton.mpr ?_⟩
      · exact fun item listed => NameRegistry.mem_reserve_iff.mpr (.inr (use.bases item listed))
      · rcases state.2.free_name_eq (defaultLocalName package) with ⟨_, same⟩ | ⟨taken, _⟩
        · exact NameRegistry.mem_reserve_iff.mpr (.inl same.symm)
        · exact NameRegistry.mem_reserve_iff.mpr (.inr taken)

theorem InUse.add_imports (use : InUse state) (packages : List String) :
    InUse (packages.foldl addImport state) := by
  induction packages generalizing state with
  | nil => exact use
  | cons package rest induction => exact induction (use.add_import package)

theorem in_use_of_packages (packages : List String) :
    InUse (packages.foldl addImport ([], localNameRegistry)) := by
  have reserved : ∀ name ∈ localNameRegistry.taken, name ∈ reservedLocalNames := by decide
  have none : InUse ([], localNameRegistry) :=
    ⟨fun name taken => .inl (reserved name taken), by simp⟩
  exact none.add_imports packages

/-- The base of every imported package is a local name, if not its own one, or reserved. -/
theorem base_used {packages : List String} {package : String} (listed : package ∈ packages) :
    defaultLocalName package ∈ reservedLocalNames ∨
      defaultLocalName package ∈ (importsOf packages).map (·.localName) := by
  have imported : package ∈ (importsOf packages).map (·.package) :=
    ((imports_of_packages packages).packages.mem_iff package).mpr listed
  obtain ⟨item, member, rfl⟩ := List.mem_map.mp imported
  have use := in_use_of_packages packages
  exact use.handed_out _ (use.bases item member)

/-- A keyword has no number behind it. -/
theorem keyword_not_numbered (known : keyword ∈ Text.keywords) (number : Nat) :
    keyword ≠ NameRegistry.numbered base number := by
  have ends : ∀ keyword ∈ Text.keywords,
      keyword.toList.getLast?.all (fun letter => !letter.isDigit) = true := by decide
  intro same
  have digits := ends keyword known
  have last : keyword.toList.getLast? = (Nat.toDigits 10 number).getLast? := by
    rw [same, NameRegistry.numbered, String.toList_append, Nat.toString_eq_repr, Nat.toList_repr]
    exact List.getLast?_append_of_ne_nil _ Nat.toDigits_ne_nil
  rw [last, List.getLast?_eq_some_getLast Nat.toDigits_ne_nil] at digits
  have digit := Nat.isDigit_of_mem_toDigits (by decide) (by decide)
    (List.getLast_mem (Nat.toDigits_ne_nil (b := 10) (n := number)))
  simp [digit] at digits

theorem raw_keyword_of_local_name {packages : List String} {item : Import}
    (listed : item ∈ importsOf packages) (known : item.localName ∈ Text.keywords) :
    item.localName ∈ Text.rawKeywords ∧ defaultLocalName item.package = item.localName := by
  have imports := imports_of_packages packages
  constructor
  · have unreserved := imports.names_unreserved item listed
    have small := import_names_snake packages item listed
    have others : ∀ keyword ∈ Text.pathKeywords,
        keyword ∈ reservedLocalNames ∨ ¬Text.IsSnakeName keyword := by decide
    rcases List.mem_append.mp known with raw | path
    · exact raw
    · rcases others _ path with reserved | capital
      · exact absurd reserved unreserved
      · exact absurd small capital
  · obtain ⟨registry, same⟩ := imports.names_derived item listed
    rcases registry.free_name_eq (defaultLocalName item.package) with ⟨_, own⟩ | ⟨_, number, own, _⟩
    · rw [same, own]
    · exact absurd (same.trans own) (keyword_not_numbered known number)

/-- A keyword is a local name just when it can be written raw and some handler package has it as its
base. So all local names can be used if no package has such a base, and only then. -/
theorem keyword_names_iff (endpoints : List Endpoint) :
    let names := (ofEndpoints endpoints).imports.map (·.localName)
    (∀ keyword, keyword ∈ Text.keywords ∧ keyword ∈ names ↔
      keyword ∈ Text.rawKeywords ∧
        ∃ endpoint ∈ endpoints, defaultLocalName endpoint.handler.package = keyword) ∧
    ((∀ name ∈ names, Text.IsSnakeName name ∧ name ∉ Text.keywords) ↔
      ∀ endpoint ∈ endpoints, defaultLocalName endpoint.handler.package ∉ Text.rawKeywords) := by
  have free : ∀ keyword ∈ Text.rawKeywords, keyword ∉ reservedLocalNames := by decide
  have exact : ∀ keyword, keyword ∈ Text.keywords ∧
      keyword ∈ (ofEndpoints endpoints).imports.map (·.localName) ↔
        keyword ∈ Text.rawKeywords ∧
          ∃ endpoint ∈ endpoints, defaultLocalName endpoint.handler.package = keyword := by
    intro keyword
    constructor
    · rintro ⟨known, named⟩
      obtain ⟨item, listed, rfl⟩ := List.mem_map.mp named
      obtain ⟨raw, own⟩ := raw_keyword_of_local_name listed known
      have imported := ((import_packages endpoints).mem_iff item.package).mp
        (List.mem_map_of_mem listed)
      obtain ⟨endpoint, member, same⟩ := List.mem_map.mp imported
      exact ⟨raw, endpoint, member, by rw [same, own]⟩
    · rintro ⟨raw, endpoint, listed, rfl⟩
      refine ⟨List.mem_append_left _ raw, ?_⟩
      exact (base_used (List.mem_map_of_mem listed)).resolve_left (free _ raw)
  refine ⟨exact, ?_⟩
  constructor
  · intro usable endpoint listed raw
    obtain ⟨known, named⟩ := (exact _).mpr ⟨raw, endpoint, listed, rfl⟩
    exact (usable _ named).2 known
  · intro plain name named
    obtain ⟨item, listed, rfl⟩ := List.mem_map.mp named
    refine ⟨import_names_snake _ item listed, ?_⟩
    intro known
    obtain ⟨raw, endpoint, member, same⟩ := (exact _).mp ⟨known, named⟩
    exact plain endpoint member (same ▸ raw)

end BuildContext

/-- A handler package that is called like a keyword, with an underscore behind it. -/
def Manifest.typeHandlers : Manifest :=
  { Manifest.empty with endpoints := [
      ⟨.get, "/types", ⟨"crate::handlers::type_", "list"⟩, .noReqNoResp, none, none, none, []⟩] }

/-- The manifest is valid, and the module imports its package under the keyword. -/
theorem type_handlers_named_by_keyword :
    Manifest.typeHandlers.validate = .ok () ∧
    ∃ item ∈ (BuildContext.ofEndpoints Manifest.typeHandlers.canonicalEndpoints).imports,
      item.localName ∈ Text.keywords ∧
        RoutesModule.Context.importLine item = "use crate::handlers::type_ as type;" := by
  have imported : (BuildContext.ofEndpoints Manifest.typeHandlers.canonicalEndpoints).imports =
      [⟨"crate::handlers::type_", "type"⟩] := by decide +kernel
  refine ⟨by cbv, ⟨"crate::handlers::type_", "type"⟩, ?_, by decide, by decide +kernel⟩
  rw [imported]
  exact List.mem_singleton_self _

end ApiCompiler
