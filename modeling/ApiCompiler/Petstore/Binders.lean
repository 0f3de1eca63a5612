import ApiCompiler.Petstore.Basic

/-!
How the requests of the store are bound: the body first, then path, query and headers.
-/

set_option autoImplicit false

namespace ApiCompiler.Petstore

def bindGetPet (parts : RequestParts) : Except BindFault GetPet := do
  let id ← Slot.requiredOne ⟨.path, "id", "id"⟩ .int64 parts
  let tags ← Slot.requiredMany ⟨.query, "tag", "tags"⟩ .int8 parts
  let verbose ← Slot.optionalOne ⟨.header, "X-Verbose", "verbose"⟩ .bool parts
  return { id, tags, verbose }

/-- The body holds the name and nothing else that counts. -/
def readCreatePet : Json.Node → Except Json.Fault CreatePet :=
  Json.textFormat.readRecord "CreatePet" ⟨"", none⟩ [
    ⟨"name", true, fun value request =>
      return { request with name := ← Json.textFormat.text value }⟩]

def bindCreatePet (parts : RequestParts) : Except BindFault CreatePet := do
  let request ← parts.bodyAs readCreatePet
  let dryRun ← Slot.optionalOne ⟨.query, "dry_run", "dry_run"⟩ .bool parts
  return { request with dryRun }

def bindCounters (parts : RequestParts) : Except BindFault Counters := do
  let small ← Slot.requiredOne ⟨.query, "small", "small"⟩ .uint8 parts
  let medium ← Slot.requiredOne ⟨.query, "medium", "medium"⟩ .int16 parts
  let large ← Slot.requiredOne ⟨.query, "large", "large"⟩ .uint32 parts
  let ratio ← Slot.optionalOne ⟨.query, "ratio", "ratio"⟩ .float32 parts
  let label ← Slot.optionalOne ⟨.query, "label", "label"⟩ .string parts
  let tenant ← Slot.requiredOne ⟨.header, "X-Tenant", "tenant"⟩ .string parts
  return { small, medium, large, ratio, label, tenant }

end ApiCompiler.Petstore
