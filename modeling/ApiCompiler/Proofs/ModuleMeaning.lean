import ApiCompiler.Files.Path
import ApiCompiler.Petstore.Service
import ApiCompiler.Proofs.AnsweredStatuses
import ApiCompiler.Proofs.StringLiteral

/-!
What a routes module does when it runs with some handlers. The router takes a request to the
dispatch function of its path and method; that one extracts parts of the request, binds what its
handler takes, field by field, and answers with what the handler gives. A module that names what is
not there does nothing.
-/

set_option autoImplicit false

namespace ApiCompiler

open Http (Request Response)
open Json (Value)
open Petstore (answer withBody withParameter)

/-- What is answered when a handler succeeds. A list is never written as null. -/
def Template.SuccessArm.respond : SuccessArm → Value → Response
  | noContent, _ => .noContent
  | guardedJson, .null => .ok (.array [])
  | _, value => .ok value

namespace RoutesModule

/-! ### Binders -/

/-- What a helper finds of values. -/
abbrev Helper.Found (helper : Helper) (α : Type) : Type :=
  match helper with
  | .requiredOne => α
  | .optionalOne => Option α
  | .requiredMany => List α
  | .optionalMany => Option (List α)

def Helper.lookUp (slot : Slot) (kind : Kind) (parts : RequestParts) :
    (helper : Helper) → Except BindFault (helper.Found kind.family.Value)
  | .requiredOne => slot.requiredOne kind parts
  | .optionalOne => slot.optionalOne kind parts
  | .requiredMany => slot.requiredMany kind parts
  | .optionalMany => slot.optionalMany kind parts

/-- A field of what a handler takes. Its type is that of what a helper finds of a kind. -/
structure RequestField (α : Type) where
  name : String
  helper : Helper
  kind : Kind
  set : helper.Found kind.family.Value → α → α

structure HandlerFunction where
  place : Handler
  Taken : Type
  fields : List (RequestField Taken)
  /-- What is taken where nothing is known. -/
  initial : Taken
  read : Json.Node → Except Json.Fault Taken
  run : Taken → Except Response Value

namespace BindingContext

/-- The slot that a binding is about, by its literals. -/
def slot? (context : BindingContext) : Option Slot := do
  let location ← Location.all.find? fun location => location.variant == context.source
  let tag ← Text.readLiteral context.tagLiteral
  let field ← Text.readLiteral context.fieldLiteral
  return ⟨location, tag, field⟩

def kind? (context : BindingContext) : Option Kind :=
  Kind.all.find? fun kind => kind.parserName == context.parserName

/-- The assignment to a field, if there is one of that name and type. -/
def assign? {α : Type} (fields : List (RequestField α)) (context : BindingContext) :
    Option (RequestParts → α → Except BindFault α) := do
  let slot ← context.slot?
  let kind ← context.kind?
  let field ← fields.find? fun field => Text.sourceIdentifier field.name == context.field
  if context.helper = field.helper ∧ kind = field.kind then
    some fun parts taken => return field.set (← field.helper.lookUp slot field.kind parts) taken
  else none

def assignAll? {α : Type} (fields : List (RequestField α)) :
    List BindingContext → Option (RequestParts → α → Except BindFault α)
  | [] => some fun _ taken => .ok taken
  | context :: rest => do
      let assign ← context.assign? fields
      let others ← assignAll? fields rest
      return fun parts taken => assign parts taken >>= others parts

end BindingContext

namespace EndpointContext

variable (context : EndpointContext) (function : HandlerFunction)

/-- What a binder begins with: what the body holds, or nothing. -/
def begin (parts : RequestParts) : Except BindFault function.Taken :=
  if context.hasJsonBody then parts.bodyAs function.read else .ok function.initial

/-- The binder: one field is bound after the other. -/
def bind? : Option (RequestParts → Except BindFault function.Taken) := do
  let assign ← BindingContext.assignAll? function.fields context.bindings
  return fun parts => context.begin function parts >>= assign parts

/-! ### Dispatch functions -/

def conclude (result : Except Response Value) : Response :=
  match result with
  | .ok value => context.successArm.respond value
  | .error response => response

def handle? : Option (RequestParts → Response) :=
  match context.bindFunction with
  | none => some fun _ => context.conclude (function.run function.initial)
  | some _ => do
      let bind ← context.bind? function
      return fun parts => answer (bind parts) fun taken => context.conclude (function.run taken)

/-- Decodes the parameters of a path, one after the other. -/
def decodeAll : List (String × String) → (List (String × String) → Response) → Response
  | [], respond => respond []
  | (name, encoded) :: rest, respond =>
      withParameter name encoded fun text =>
        decodeAll rest fun others => respond ((name, text) :: others)

/-- The parts of a request that a dispatch function extracts. The others stay empty. -/
def extract (captured : List (String × String)) (request : Request)
    (respond : RequestParts → Response) : Response :=
  let behindPath := fun path =>
    let all := RequestParts.ofRequest path request
    let parts : RequestParts :=
      { path
        query := if context.needs .query then all.query else []
        headers := if context.needs .headers then all.headers else []
        body := if context.needs .body then all.body else [] }
    if context.needs .body then withBody request (respond parts) else respond parts
  if context.needs .path then decodeAll captured behindPath else behindPath []

end EndpointContext

/-! ### The router -/

/-- The name in braces. -/
def parameter? (piece : String) : Option String :=
  match piece.toList with
  | '{' :: rest =>
      if rest.getLast? = some '}' then some (String.ofList rest.dropLast) else none
  | _ => none

/-- The parameters of a path by the pieces of a pattern. No parameter is empty. -/
def captured? : (pattern pieces : List String) → Option (List (String × String))
  | [], [] => some []
  | part :: pattern, piece :: pieces =>
      match parameter? part with
      | some name =>
          if piece = "" then none else (captured? pattern pieces).map ((name, piece) :: ·)
      | none => if part = piece then captured? pattern pieces else none
  | _, _ => none

def Route.captured? (route : Route) (path : String) : Option (List (String × String)) := do
  let pattern ← Text.readLiteral route.pathLiteral
  RoutesModule.captured? (Path.pieces pattern) (Path.pieces path)

/-- The methods that a route answers to. -/
def Route.methods (route : Route) : List Method :=
  route.chain.flatMap fun link => if link.1 = .get then [.get, .head] else [link.1]

namespace Context

variable (module : Context) (handlers : List HandlerFunction)

/-- The handler that a dispatch function calls, by the imports of the module. -/
def functionOf? (context : EndpointContext) : Option HandlerFunction :=
  handlers.find? fun function => module.imports.any fun item =>
    item.package == function.place.package && context.handlerCall ==
      item.localName ++ "::" ++ Text.sourceIdentifier function.place.name

def dispatch? (captured : List (String × String)) (request : Request) (name : String) :
    Option Response :=
  (module.endpoints.find? fun context => context.dispatchFunction == name).bind fun context =>
    (module.functionOf? handlers context).bind fun function =>
      (context.handle? function).map (context.extract captured request)

/-- A route that answers to GET answers to HEAD with the same head. -/
def answer? (request : Request) (route : Route) (captured : List (String × String)) :
    Option Response :=
  match Method.ofName? request.method with
  | none => some (.methodNotAllowed route.methods)
  | some method =>
      match route.chain.lookup method with
      | some name => module.dispatch? handlers captured request name
      | none =>
          match if method = .head then route.chain.lookup .get else none with
          | some name =>
              (module.dispatch? handlers captured request name).map Response.withoutBody
          | none => some (.methodNotAllowed route.methods)

/-- What is answered to a request, where at most one route is meant. -/
def serve? (request : Request) : Option Response :=
  let routed := module.routes.findSome? fun route =>
    (route.captured? request.target.path).map (route, ·)
  match routed with
  | some (route, captured) => module.answer? handlers request route captured
  | none => some .notFound

end Context

/-! ### Reading a module -/

/-- What the module says of a slot that is bound. -/
def bound (slot : Slot) (helper : Helper) (kind : Kind) : BindingContext where
  field := Text.sourceIdentifier slot.field
  fieldLiteral := Text.stringLiteral slot.field
  tagLiteral := Text.stringLiteral slot.tag
  source := slot.location.variant
  helper
  parserName := kind.parserName

theorem slot_of_bound (slot : Slot) (helper : Helper) (kind : Kind) :
    (bound slot helper kind).slot? = some slot := by
  have located : Location.all.find? (fun location => location.variant == slot.location.variant) =
      some slot.location := by
    cases slot.location <;> decide
  simp only [BindingContext.slot?, bound, located, Text.read_string_literal]
  rfl

theorem kind_of_bound (slot : Slot) (helper : Helper) (kind : Kind) :
    (bound slot helper kind).kind? = some kind := by
  cases kind <;> rfl

theorem Route.captured_eq (pattern path : String) (chain : List (Method × String)) :
    Route.captured? ⟨Text.stringLiteral pattern, chain⟩ path =
      RoutesModule.captured? (Path.pieces pattern) (Path.pieces path) := by
  rw [Route.captured?, Text.read_string_literal]
  rfl

/-- What a binding says can be read back: where its value is looked for, how, and of which kind it
is. -/
theorem binding_reads_back {location : Location} {binding : FieldBinding} {context : BindingContext}
    (made : BindingContext.ofBinding location binding = .ok context) :
    context.slot? = some ⟨location, binding.tag, binding.field⟩ ∧
      context.helper = .ofBinding location binding ∧
        ∃ kind, binding.parseKind = .ok kind ∧ context.kind? = some kind := by
  obtain ⟨kind, known, same⟩ := bind_ok_iff.mp made
  cases same
  exact ⟨slot_of_bound ⟨location, binding.tag, binding.field⟩ (.ofBinding location binding) kind,
    rfl, kind, known, kind_of_bound ⟨location, binding.tag, binding.field⟩ _ kind⟩

/-- The binders of every module look for what the endpoints bind. -/
theorem module_binds {manifest : Manifest} {endpoints : List Endpoint} {module : Context}
    (made : contextOf manifest endpoints (.ofEndpoints endpoints) = .ok module) :
    List.Forall₂ (fun endpoint context =>
      List.Forall₂ (fun entry binding =>
        binding.slot? = some ⟨entry.1, entry.2.tag, entry.2.field⟩ ∧
          binding.helper = .ofBinding entry.1 entry.2 ∧
            ∃ kind, entry.2.parseKind = .ok kind ∧ binding.kind? = some kind)
        (EndpointContext.bindingsOf endpoint).located context.bindings)
      endpoints module.endpoints := by
  apply (module_presents made).imp
  rintro endpoint context ⟨site, rfl, own⟩
  obtain ⟨bindings, bindFunction, bound, _, rfl⟩ := of_site_ok_iff.mp own
  exact (map_each_ok_iff.mp bound).imp fun entry binding made => binding_reads_back made

/-- A pattern without parameters is the path itself. -/
theorem captured_static {pattern pieces : List String}
    (plain : ∀ part ∈ pattern, parameter? part = none) :
    captured? pattern pieces = if pattern = pieces then some [] else none := by
  induction pattern generalizing pieces with
  | nil => cases pieces <;> rfl
  | cons part pattern induction =>
      rw [List.forall_mem_cons] at plain
      cases pieces with
      | nil => rfl
      | cons piece pieces =>
          simp only [captured?, plain.1, List.cons.injEq]
          by_cases same : part = piece
          · rw [if_pos same, induction plain.2]
            simp [same]
          · simp [same]

theorem Context.dispatch_eq {module : Context} {handlers : List HandlerFunction}
    {captured : List (String × String)} {request : Request} {name : String}
    (context : EndpointContext) (function : HandlerFunction) {handle : RequestParts → Response}
    (found : (module.endpoints.find? fun context => context.dispatchFunction == name) =
      some context)
    (called : module.functionOf? handlers context = some function)
    (handled : context.handle? function = some handle) :
    module.dispatch? handlers captured request name =
      some (context.extract captured request handle) := by
  rw [dispatch?, found, Option.bind_some, called, Option.bind_some, handled, Option.map_some]

/-! ### What a binder binds -/

variable {α : Type}

/-- A field, and the slot that it is bound to. -/
structure Assignment (α : Type) where
  slot : Slot
  field : RequestField α

def Assignment.binding (assignment : Assignment α) : BindingContext :=
  bound assignment.slot assignment.field.helper assignment.field.kind

def Assignment.run (assignment : Assignment α) (parts : RequestParts) (taken : α) :
    Except BindFault α := do
  let field := assignment.field
  return field.set (← field.helper.lookUp assignment.slot field.kind parts) taken

def runAll : List (Assignment α) → RequestParts → α → Except BindFault α
  | [], _, taken => .ok taken
  | assignment :: rest, parts, taken => assignment.run parts taken >>= runAll rest parts

/-- The field of an assignment is the one of its name. -/
def Assignment.Known (fields : List (RequestField α)) (assignment : Assignment α) : Prop :=
  fields.find? (fun field => Text.sourceIdentifier field.name ==
    Text.sourceIdentifier assignment.slot.field) = some assignment.field

variable {fields : List (RequestField α)} {assignment : Assignment α}

theorem Assignment.Known.assign (known : assignment.Known fields) :
    assignment.binding.assign? fields = some assignment.run := by
  have named : assignment.binding.field = Text.sourceIdentifier assignment.slot.field := rfl
  have helper : assignment.binding.helper = assignment.field.helper := rfl
  rw [BindingContext.assign?, named, helper, known, binding, slot_of_bound, kind_of_bound]
  simp only [Option.bind_eq_bind, Option.bind_some, and_self, if_true]
  rfl

/-- Bindings are carried out as the assignments that they were written for. -/
theorem assign_all_of_bound {assignments : List (Assignment α)}
    (known : ∀ assignment ∈ assignments, assignment.Known fields) :
    BindingContext.assignAll? fields (assignments.map Assignment.binding) =
      some (runAll assignments) := by
  induction assignments with
  | nil => rfl
  | cons assignment rest induction =>
      rw [List.forall_mem_cons] at known
      rw [List.map_cons, BindingContext.assignAll?, known.1.assign, induction known.2]
      rfl

theorem EndpointContext.bind_of_assignments {context : EndpointContext} {function : HandlerFunction}
    {assignments : List (Assignment function.Taken)}
    {bind : RequestParts → Except BindFault function.Taken}
    (bindings : context.bindings = assignments.map Assignment.binding)
    (known : ∀ assignment ∈ assignments, assignment.Known function.fields)
    (runs : ∀ parts, context.begin function parts >>= runAll assignments parts = bind parts) :
    context.bind? function = some bind := by
  rw [EndpointContext.bind?, bindings, assign_all_of_bound known]
  exact congrArg some (funext runs)

theorem EndpointContext.handle_of_bind {context : EndpointContext} {function : HandlerFunction}
    {name : String} {bind : RequestParts → Except BindFault function.Taken}
    (bound : context.bindFunction = some name) (binder : context.bind? function = some bind) :
    context.handle? function = some fun parts =>
      answer (bind parts) fun taken => context.conclude (function.run taken) := by
  rw [EndpointContext.handle?, bound, binder]
  rfl

end RoutesModule

end ApiCompiler
