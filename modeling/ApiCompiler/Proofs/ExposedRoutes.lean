import ApiCompiler.Proofs.ByteOrder
import ApiCompiler.Proofs.PathGroups
import ApiCompiler.Proofs.ServedEndpoints
import ApiCompiler.Proofs.StringLiteral

/-!
The router serves what the document describes: one route for each path, and behind each method of a
route the dispatch function of the endpoint whose operation stands there.
-/

set_option autoImplicit false

namespace ApiCompiler

open OpenApi (operationAt)
open RoutesModule (EndpointContext)

namespace RoutesModule

/-- What the router is told: for each route, each method of its chain with its dispatch function. -/
def Context.registrations (module : Context) : List (String × String × String) :=
  module.routes.flatMap fun route =>
    route.chain.map fun link => (route.pathLiteral, link.1.routerName, link.2)

/-- The registration of an endpoint. -/
def registrationOf (entry : Endpoint × EndpointContext) : String × String × String :=
  (Text.stringLiteral entry.1.path, entry.1.method.routerName, entry.2.dispatchFunction)

end RoutesModule

namespace RoutesModule

variable {manifest : Manifest} {endpoints : List Endpoint} {module : Context}

theorem endpoints_aligned
    (made : contextOf manifest endpoints (.ofEndpoints endpoints) = .ok module) :
    endpoints.length = module.endpoints.length := by
  obtain ⟨sites, listed, _, _, each⟩ := module_sites made
  rw [← each.length_eq, ← listed, List.length_map]

theorem module_registrations
    (made : contextOf manifest endpoints (.ofEndpoints endpoints) = .ok module) :
    module.registrations = (endpoints.zip module.endpoints).map registrationOf := by
  have aligned := endpoints_aligned made
  -- Every link stands for a member of a group, and the members of all groups are the endpoints.
  have grouped : module.registrations =
      ((groupByPath (indexed endpoints)).flatMap (·.members)).map fun entry =>
        (Text.stringLiteral entry.2.path, entry.2.method.routerName,
          ((module.endpoints[entry.1]?).map (·.dispatchFunction)).getD "") := by
    unfold Context.registrations
    rw [module_routes made, List.flatMap_map, List.map_flatMap]
    apply List.flatMap_congr
    intro group listed
    rw [routeOf, List.map_map]
    apply List.map_congr_left
    intro entry member
    have own := (group_by_path_paths _ group listed).2 entry member
    simp [own]
  rw [grouped, group_by_path_members]
  apply List.ext_getElem
  · simp [indexed, aligned]
  · intro index inRange inRange'
    have known : index < module.endpoints.length := by simp_all
    simp [indexed, registrationOf, List.getElem?_eq_getElem known]

end RoutesModule

namespace Manifest

variable {manifest : Manifest} {config : Config} {module : RoutesModule.Context}
  {document : OpenApi.Document}

end Manifest

end ApiCompiler
