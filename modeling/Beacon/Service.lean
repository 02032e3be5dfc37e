import Beacon.Body
import Beacon.Config
import Beacon.Http.Router
import Beacon.Requests

/-!
# The service

What a service answers. Two targets can be asked for with the method GET: its health and what it
says about itself. Every other method or target, and every target with a query, is not found.
Each answered request leaves one record.
-/

namespace Beacon

open Http

structure Identity where
  name : String
  language : String
  deriving DecidableEq, Repr

namespace Identity

def api : Identity := ⟨"python-api", "python"⟩

def cache : Identity := ⟨"rust-cache", "rust"⟩

end Identity

/-- A service: who it is, and the labels that it reports. -/
structure Service where
  identity : Identity
  environmentLabel : String
  versionLabel : String
  deriving DecidableEq, Repr

inductive Route where
  | health
  | info
  deriving DecidableEq, Repr

def Route.path : Route → String
  | .health => "/health"
  | .info => "/"

namespace Service

def ofConfig (identity : Identity) (config : Config) : Service :=
  ⟨identity, config.environmentLabel, config.versionLabel⟩

def health (service : Service) : Health :=
  ⟨"ok", service.identity.name⟩

def info (service : Service) : Info :=
  ⟨service.identity.name, service.identity.language, service.environmentLabel,
    service.versionLabel⟩

def body (service : Service) : Route → String
  | .health => service.health.encode
  | .info => service.info.encode

/-! ## Handlers -/

def handleRoute (service : Service) (route : Route) : Handler Response := fun _ =>
  ⟨.ok, [.ofText Header.contentType "application/json"], Utf8.octets (service.body route)⟩

def handleMissing : Handler Response := fun _ =>
  ⟨.notFound, [], []⟩

/-! ## Layers -/

/-- Lets no request through whose target has a query, be it an empty one. -/
def rejectQuery (next : Handler Response) : Handler Response := fun request =>
  if request.target.query.isSome then handleMissing request else next request

def record (service : Service) (method : Method) (target : Target) (response : Response) :
    Record :=
  ⟨service.identity.name, method.name, target.recorded, response.status.code⟩

def logRequest (service : Service) (next : Handler Response) : Handler (Response × Record) :=
  fun request =>
    let response := next request
    (response, service.record request.method request.target response)

/-! ## Routing -/

def methods (service : Service) (route : Route) : MethodRouter Response :=
  ⟨service.handleRoute route, handleMissing, handleMissing⟩

def routes (service : Service) : Router Response :=
  ⟨[(Route.health.path, service.methods .health), (Route.info.path, service.methods .info)],
    handleMissing⟩

/-- The router of a service. The layer that records is the outer one. -/
def router (service : Service) : Router (Response × Record) :=
  (service.routes.layer rejectQuery).layer service.logRequest

def handle (service : Service) (request : Request) : Response × Record :=
  let (response, record) := service.router.handler request request
  (response.complete (service.router.notice request), record)

end Service

end Beacon
