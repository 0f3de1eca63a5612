import ApiCompiler.Proofs.BuildNames
import ApiCompiler.Proofs.ComponentNames
import ApiCompiler.Proofs.WordCase
import ApiCompiler.RoutesModule.Build

/-!
The names that a build makes up are plain ASCII identifiers, whatever packages, handlers and types
are called: their bases are, and a number behind a base does not change that.
-/

set_option autoImplicit false

namespace ApiCompiler

open Text (Spelled IsPlainName IsSnakeName IsCamelName)

/-! ### Bases -/

theorem default_local_name_snake (package : String) : IsSnakeName (defaultLocalName package) := by
  have fallback : IsSnakeName "handlers" := by decide
  apply Text.sanitize_spelled fallback rfl
  · exact fun character listed kept =>
      Text.snake_of_identifier kept (Text.snake_case_not_upper _ character listed)
  · intro character known named digit
    simpa [Text.isSnakeChar, named, digit] using known

theorem operation_id_base_camel (handler : Handler) : IsCamelName (operationIdBase handler) := by
  have fallback : IsPlainName "op" := by decide
  have operation : IsCamelName "operation" := by decide
  unfold operationIdBase
  dsimp only
  split_ifs
  · exact operation
  · exact (Text.sanitize_plain fallback).lower_camel_case

theorem component_base_plain (typeId : String) : IsPlainName (componentBase typeId) :=
  Text.sanitize_plain (by decide)

/-! ### Names -/

variable {first rest : Char → Bool} {base : String}

theorem Text.Spelled.numbered (digits : ∀ digit, digit.isDigit = true → rest digit = true)
    (spelled : Spelled first rest base) (number : Nat) :
    Spelled first rest (NameRegistry.numbered base number) := by
  apply spelled.append
  intro digit listed
  rw [Nat.toString_eq_repr, Nat.toList_repr] at listed
  exact digits digit (Nat.isDigit_of_mem_toDigits (by decide) (by decide) listed)

theorem Text.Spelled.free_name (digits : ∀ digit, digit.isDigit = true → rest digit = true)
    (spelled : Spelled first rest base) (registry : NameRegistry) :
    Spelled first rest (registry.freeName base) :=
  registry.free_name_of_base spelled (spelled.numbered digits)

theorem Text.Spelled.claim_all (digits : ∀ digit, digit.isDigit = true → rest digit = true)
    {bases : List String} (each : ∀ base ∈ bases, Spelled first rest base)
    (registry : NameRegistry) : ∀ name ∈ (registry.claimAll bases).1, Spelled first rest name :=
  registry.claim_all_of_bases each fun _ spelled => spelled.numbered digits

theorem snake_digit (digit : Char) (known : digit.isDigit = true) :
    Text.isSnakeChar digit = true := by
  simp [Text.isSnakeChar, known]

theorem alphanum_digit (digit : Char) (known : digit.isDigit = true) :
    digit.isAlphanum = true := by
  simp [Char.isAlphanum, known]

theorem import_names_snake (packages : List String) :
    ∀ item ∈ BuildContext.importsOf packages, IsSnakeName item.localName := by
  intro item listed
  obtain ⟨registry, same⟩ :=
    (BuildContext.imports_of_packages packages).names_derived item listed
  rw [same]
  exact (default_local_name_snake item.package).free_name snake_digit registry

theorem operation_ids_camel (endpoints : List Endpoint) :
    ∀ id ∈ (BuildContext.ofEndpoints endpoints).operationIds, IsCamelName id := by
  apply Text.Spelled.claim_all alphanum_digit
  intro base listed
  obtain ⟨endpoint, _, rfl⟩ := List.mem_map.mp listed
  exact operation_id_base_camel endpoint.handler

theorem suffixes_snake {operationIds : List String} (camel : ∀ id ∈ operationIds, IsCamelName id) :
    ∀ suffix ∈ RoutesModule.suffixes operationIds, IsSnakeName suffix := by
  apply Text.Spelled.claim_all snake_digit
  intro base listed
  obtain ⟨id, given, rfl⟩ := List.mem_map.mp listed
  exact (camel id given).plain.snake_case

theorem suffixes_length (operationIds : List String) :
    (RoutesModule.suffixes operationIds).length = operationIds.length := by
  rw [RoutesModule.suffixes, NameRegistry.claim_all_length, List.length_map]

/-- Local names of packages and ends of function names are in snake case, operation ids in camel
case, and components have plain names after any calls for names of other types. Each package has a
local name, and each endpoint an operation id and an end for its functions. -/
theorem derived_names_plain (endpoints : List Endpoint) (calls : List ComponentNames.Call)
    (typeId : String) :
    let context := BuildContext.ofEndpoints endpoints
    (FirstOccurrences (context.imports.map (·.package)) (endpoints.map (·.handler.package)) ∧
      context.operationIds.length = endpoints.length ∧
      (RoutesModule.suffixes context.operationIds).length = endpoints.length) ∧
    (∀ item ∈ context.imports, IsSnakeName item.localName) ∧
    (∀ id ∈ context.operationIds, IsCamelName id) ∧
    (∀ suffix ∈ RoutesModule.suffixes context.operationIds, IsSnakeName suffix) ∧
    IsPlainName ((context.components.afterCalls calls).nameOf typeId).1 := by
  have camel := operation_ids_camel endpoints
  have ids := BuildContext.operation_ids_length endpoints
  refine ⟨⟨BuildContext.import_packages endpoints, ids, (suffixes_length _).trans ids⟩,
    import_names_snake _, camel, suffixes_snake camel, ?_⟩
  have derived : ComponentNames.empty.Derived := fun id name known => by cases known
  obtain ⟨registry, same⟩ := (derived.after_calls calls).name_of typeId
  have digits : ∀ digit : Char, digit.isDigit = true → Text.isIdentifierChar digit = true :=
    fun digit known => Text.identifier_of_alphanum (alphanum_digit digit known)
  rw [BuildContext.ofEndpoints, same]
  exact (component_base_plain typeId).free_name digits registry

-- The small letters of a dotted capital and of the Kelvin sign begin in ASCII.
example : defaultLocalName "shop::\u0130\u212a" = "i_k" ∧
    componentBase "stock::9<\u212a, Box>" = "Type9___Box" := by decide +kernel

end ApiCompiler
