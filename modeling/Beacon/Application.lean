import Beacon.Service

/-!
# Applications

What all routers of a service share: the service itself, and the sink of its records. Requests are
put together from texts and sent one after another, to whichever of the routers.
-/

namespace Beacon

open Http

/-- A request that is put together from texts. -/
structure Draft where
  method : String
  target : String
  headers : List (String × String)
  deriving DecidableEq, Repr

def Draft.build (draft : Draft) (grammar : Target.Grammar := .strict) :
    Except RequestError Request :=
  Request.build draft.method draft.target draft.headers grammar

/-- The state that the routers of a service share. -/
structure Application where
  service : Service
  sink : Sink

/-- What comes of a draft that is sent: the response, unless the request cannot be built, the events
reported, and the application afterwards. -/
structure Sent where
  result : Except RequestError Response
  events : List Log.Event
  application : Application

namespace Application

def create (identity : Identity) (config : Config) (sink : Sink) : Application :=
  ⟨.ofConfig identity config, sink⟩

/-- Sends a draft to a router. A request that cannot be built reaches none. -/
def send (application : Application) (draft : Draft) (grammar : Target.Grammar := .strict) : Sent :=
  match draft.build grammar with
  | .error fault => ⟨.error fault, [], application⟩
  | .ok request =>
      let (response, record) := application.service.handle request
      let (sink, events) := application.sink.record record
      ⟨.ok response, events, { application with sink := sink }⟩

/-- Sends drafts, one after another: the results, and the application afterwards. -/
def sendAll (application : Application) (drafts : List Draft)
    (grammar : Target.Grammar := .strict) : List (Except RequestError Response) × Application :=
  match drafts with
  | [] => ([], application)
  | draft :: rest =>
      let sent := application.send draft grammar
      let later := sent.application.sendAll rest grammar
      (sent.result :: later.1, later.2)

end Application

end Beacon
