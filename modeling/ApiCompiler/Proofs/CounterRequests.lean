import ApiCompiler.Proofs.PetRequests

/-!
Requests for counters. The first value of each key is what counts, and what was encoded into the
query and the header comes back in the body.
-/

set_option autoImplicit false

namespace ApiCompiler

namespace Slot

variable {slot : Slot} {parts : RequestParts}

theorem required_text_eq {text : String} (first : slot.first? parts = some text) :
    slot.requiredOne .string parts = .ok text := by
  rw [required_one_of_some first]
  exact parse_ok_iff.mpr rfl

/-- Any text is a value of a slot for texts, if there is one. -/
theorem required_text_binds (slot : Slot) (parts : RequestParts) :
    Binds [(∃ text, slot.first? parts = some text, .missing slot)]
      (slot.requiredOne .string parts) := by
  cases first : slot.first? parts with
  | some text =>
      rw [required_text_eq first]
      exact .met ⟨text, rfl⟩ (.done text)
  | none =>
      rw [required_one_of_none first]
      exact .unmet nofun rfl

theorem optional_text_eq : slot.optionalOne .string parts = .ok (slot.first? parts) := by
  apply optional_one_ok_iff.mpr
  cases slot.first? parts with
  | none => exact .none
  | some text => exact .some rfl

theorem optional_absent {kind : Kind} (absent : parts.values slot = []) :
    slot.optionalOne kind parts = .ok none := by
  apply optional_one_ok_iff.mpr
  rw [first?, absent]
  exact .none

end Slot

namespace Petstore

open Http (Request Response)
open Json (Value)

def smallSlot : Slot := ⟨.query, "small", "small"⟩

def mediumSlot : Slot := ⟨.query, "medium", "medium"⟩

def largeSlot : Slot := ⟨.query, "large", "large"⟩

def ratioSlot : Slot := ⟨.query, "ratio", "ratio"⟩

def labelSlot : Slot := ⟨.query, "label", "label"⟩

def tenantSlot : Slot := ⟨.header, "X-Tenant", "tenant"⟩

/-- What is asked of a slot with one value: that the value is there, and then that it is one of the
slot's kind. -/
def slotDemands (slot : Slot) (kind : Kind) (first : Option String) : List (Prop × Complaint) := [
  (∃ text, first = some text, .missing slot),
  (∀ text, first = some text → ∃ value, kind.Denotes text value, .invalid slot)]

/-- What is asked of a request for counters, in order. -/
def counterDemands (request : Request) : List (Prop × Complaint) :=
  slotDemands smallSlot .uint8 (request.queryValues "small").head? ++
  (slotDemands mediumSlot .int16 (request.queryValues "medium").head? ++
  (slotDemands largeSlot .uint32 (request.queryValues "large").head? ++
  [(∃ text, request.header? "X-Tenant" = some text, .missing tenantSlot)]))

variable {request : Request}

theorem first_tenant (request : Request) :
    tenantSlot.first? (.ofRequest [] request) = request.header? "X-Tenant" :=
  Http.Request.first_header_eq

theorem no_ratio (noRatio : request.queryValues "ratio" = []) :
    ratioSlot.optionalOne .float32 (.ofRequest [] request) = .ok none :=
  Slot.optional_absent noRatio

theorem counters_bind (noRatio : request.queryValues "ratio" = []) :
    Binds (counterDemands request) (bindCounters (.ofRequest [] request)) := by
  have small := smallSlot.required_one_binds .uint8 (.ofRequest [] request)
  have medium := mediumSlot.required_one_binds .int16 (.ofRequest [] request)
  have large := largeSlot.required_one_binds .uint32 (.ofRequest [] request)
  have tenant := tenantSlot.required_text_binds (.ofRequest [] request)
  rw [first_tenant] at tenant
  have ratio : Binds [] (ratioSlot.optionalOne .float32 (.ofRequest [] request)) := by
    rw [no_ratio noRatio]
    exact .done none
  have label : Binds [] (labelSlot.optionalOne .string (.ofRequest [] request)) := by
    rw [Slot.optional_text_eq]
    exact .done _
  apply small.bind
  intro smallest _
  apply medium.bind
  intro middle _
  apply large.bind
  intro largest _
  apply ratio.bind
  intro ratio _
  apply label.bind
  intro label _
  exact tenant.bind fun tenant _ =>
    Binds.done (Counters.mk smallest middle largest ratio label tenant)

theorem serve_counters (get : request.method = "GET") (path : request.target.path = "/counters") :
    serve request =
      answer (bindCounters (.ofRequest [] request)) fun bound => .ok bound.toJson := by
  have method : Method.ofName? "GET" = some .get := by decide
  have route : Route.ofPath? "/counters" = some .counters := by decide
  rw [serve, path, route]
  simp only [answerAt, get, method, dispatch?, answerCounters, Option.getD_some]

/-! ### What is shown -/

def counterMembers (small medium large : Int) (label : Option String) (tenant : String) :
    List (String × Value) := [
  ("small", .ofInt small), ("medium", .ofInt medium), ("large", .ofInt large), ("ratio", .null),
  ("label", .ofOption .string label), ("tenant", .string tenant)]

theorem counters_shown {small medium large : Int} (eight : IntegerWidth.Holds ⟨false, 8⟩ small)
    (sixteen : IntegerWidth.Holds ⟨true, 16⟩ medium)
    (thirtyTwo : IntegerWidth.Holds ⟨false, 32⟩ large) (label : Option String) (tenant : String) :
    (Response.ok (.object (counterMembers small medium large label tenant))).Shows
      (counterMembers small medium large label tenant) := by
  have text : (Value.ofOption Value.string label).nesting = 0 ∧
      (Value.ofOption Value.string label).Plain ∧ (Value.ofOption Value.string label).Settled := by
    cases label <;> exact ⟨rfl, by simp [Value.ofOption], rfl⟩
  unfold counterMembers
  apply Response.json_shows
  · simp [text.2.1, Json.plain_of_holds (by decide) eight, Json.plain_of_holds (by decide) sixteen,
      Json.plain_of_holds (by decide) thirtyTwo]
  · simp [Value.nesting, Value.membersNesting, Json.integer_flat, text.1, Json.depthLimit]
  · simp
  · simp [text.2.2]

theorem widths_hold (small : UInt8) (medium : Int16) (large : UInt32) :
    IntegerWidth.Holds ⟨false, 8⟩ small.toNat ∧ IntegerWidth.Holds ⟨true, 16⟩ medium.toInt ∧
      IntegerWidth.Holds ⟨false, 32⟩ large.toNat := by
  have eight : small.toNat < 2 ^ 8 := small.toNat_lt
  have sixteen : -2 ^ 15 ≤ medium.toInt ∧ medium.toInt < 2 ^ 15 :=
    ⟨medium.le_toInt, medium.toInt_lt⟩
  have thirtyTwo : large.toNat < 2 ^ 32 := large.toNat_lt
  simp only [IntegerWidth.Holds, IntegerWidth.depth, IntegerWidth.greatest]
  norm_num
  omega

/-- Values of their widths, written in decimal figures, are bound to themselves. -/
theorem counters_bound {small : UInt8} {medium : Int16} {large : UInt32} {tenant : String}
    (noRatio : request.queryValues "ratio" = [])
    (first : (request.queryValues "small").head? = some (toString small.toNat))
    (second : (request.queryValues "medium").head? = some (toString medium.toInt))
    (third : (request.queryValues "large").head? = some (toString large.toNat))
    (header : request.header? "X-Tenant" = some tenant) :
    bindCounters (.ofRequest [] request) = .ok ⟨small.toNat, medium.toInt, large.toNat, none,
      (request.queryValues "label").head?, tenant⟩ := by
  obtain ⟨eight, sixteen, thirtyTwo⟩ := widths_hold small medium large
  have smallest : smallSlot.requiredOne .uint8 (.ofRequest [] request) = .ok (small.toNat : Int) :=
    Slot.required_one_ok_iff.mpr ⟨_, first, IntegerWidth.denotes_natural eight⟩
  have middle : mediumSlot.requiredOne .int16 (.ofRequest [] request) = .ok medium.toInt :=
    Slot.required_one_ok_iff.mpr ⟨_, second, IntegerWidth.denotes_decimal sixteen⟩
  have largest : largeSlot.requiredOne .uint32 (.ofRequest [] request) = .ok (large.toNat : Int) :=
    Slot.required_one_ok_iff.mpr ⟨_, third, IntegerWidth.denotes_natural thirtyTwo⟩
  have label : labelSlot.optionalOne .string (.ofRequest [] request) =
    .ok (request.queryValues "label").head? := Slot.optional_text_eq
  have named : tenantSlot.requiredOne .string (.ofRequest [] request) = .ok tenant :=
    Slot.required_text_eq ((first_tenant request).trans header)
  apply bind_ok_iff.mpr ⟨_, smallest, _⟩
  apply bind_ok_iff.mpr ⟨_, middle, _⟩
  apply bind_ok_iff.mpr ⟨_, largest, _⟩
  apply bind_ok_iff.mpr ⟨_, no_ratio noRatio, _⟩
  apply bind_ok_iff.mpr ⟨_, label, _⟩
  exact bind_ok_iff.mpr ⟨_, named, rfl⟩

theorem shown_header {tenant : String}
    (first : (request.headers.find? (RequestParts.isNamed "X-Tenant")).map Prod.snd = some tenant)
    (visible : Http.isVisible tenant = true) : request.header? "X-Tenant" = some tenant := by
  rw [Http.Request.header?, first, Option.filter_some, if_pos visible]

/-- What was written into a query and a header is shown as it was, and the first slot without such
a value is named if there is one. Which values a query has does not depend on how it is written. -/
theorem counters_answer (get : request.method = "GET") (path : request.target.path = "/counters")
    (noRatio : request.queryValues "ratio" = []) :
    (∀ (small : UInt8) (medium : Int16) (large : UInt32) (label : Option String) (tenant : String),
      (request.queryValues "small").head? = some (toString small.toNat) →
      (request.queryValues "medium").head? = some (toString medium.toInt) →
      (request.queryValues "large").head? = some (toString large.toNat) →
      (request.queryValues "label").head? = label →
      (request.headers.find? (RequestParts.isNamed "X-Tenant")).map Prod.snd = some tenant →
      Http.isVisible tenant = true →
      serve request = .ok (.object
          (counterMembers small.toNat medium.toInt large.toNat label tenant)) ∧
        (serve request).Shows (counterMembers small.toNat medium.toInt large.toNat label tenant)) ∧
    (¬AllMet (counterDemands request) → ∃ complaint,
      FirstUnmet (counterDemands request) complaint ∧ complaint.Answers (serve request)) ∧
    (∀ query pairs, request.target.query = some query → Http.Form.Spells query pairs →
      ∀ key, request.queryValues key = RequestParts.valuesOf key pairs) := by
  refine ⟨?_, ?_, ?_⟩
  · intro small medium large label tenant first second third fourth header visible
    obtain ⟨eight, sixteen, thirtyTwo⟩ := widths_hold small medium large
    have bound := counters_bound noRatio first second third (shown_header header visible)
    rw [fourth] at bound
    rw [serve_counters get path, bound]
    exact ⟨rfl, counters_shown eight sixteen thirtyTwo label tenant⟩
  · intro unmet
    obtain ⟨complaint, first⟩ :=
      (all_met_or_first_unmet (counterDemands request)).resolve_left unmet
    rw [serve_counters get path]
    exact ⟨complaint, first, answer_of_unmet (counters_bind noRatio) first _⟩
  · intro query pairs written spells key
    rw [Http.Request.queryValues, written, Option.getD_some, Http.Form.pairs_of_spells spells]

/-- Counters at the ends of their widths; the second value of a key does not count. -/
def outermostCounters : Request :=
  ⟨"GET",
    ⟨"/counters", some "large=4294967295&small=%32%35%35&medium=-32768&label=%C3%A9+x&small=1"⟩,
    [("x-tenant", "a \"b\"")], []⟩

theorem outermost_counters_answered : (serve outermostCounters).Shows
    (counterMembers 255 (-32768) 4294967295 (some "é x") "a \"b\"") ∧
    (Complaint.missing smallSlot).Answers (serve ⟨"GET", ⟨"/counters", none⟩, [], []⟩) := by
  constructor
  · have noRatio : outermostCounters.queryValues "ratio" = [] := by decide +kernel
    have answered := (counters_answer rfl rfl noRatio).1 255 (-32768) 4294967295 (some "é x")
      "a \"b\"" (by decide +kernel) (by decide +kernel) (by decide +kernel) (by decide +kernel)
      (by decide) (by decide)
    exact answered.2
  · have absent : ¬∃ text,
        (Request.queryValues ⟨"GET", ⟨"/counters", none⟩, [], []⟩ "small").head? = some text := by
      have nothing : Request.queryValues ⟨"GET", ⟨"/counters", none⟩, [], []⟩ "small" = [] := by
        decide +kernel
      simp [nothing]
    obtain ⟨complaint, first, answers⟩ := (counters_answer rfl rfl (by decide +kernel)).2.1
      fun all => absurd (all_met_cons.mp all).1 absent
    cases first with
    | here _ => exact answers
    | later met _ => exact absurd met absent

end Petstore

end ApiCompiler
