import Beacon.Json.Struct

/-!
# Response bodies

The two JSON bodies that a service answers with: its health, and what it says about itself.
-/

namespace Beacon

structure Health where
  status : String
  service : String
  deriving DecidableEq, Repr

structure Info where
  service : String
  language : String
  environment : String
  version : String
  deriving DecidableEq, Repr

namespace Health

def shape : Json.Shape :=
  ⟨"HealthResponse", ["status", "service"]⟩

def values (health : Health) : List String :=
  [health.status, health.service]

def ofValues (values : List String) : Health :=
  ⟨values.getD 0 "", values.getD 1 ""⟩

def encode (health : Health) : String :=
  String.ofList (shape.write health.values)

def decode (body : Octets) : Except Json.Fault Health :=
  (shape.decode body).map ofValues

end Health

namespace Info

def shape : Json.Shape :=
  ⟨"InfoResponse", ["service", "language", "env", "version"]⟩

def values (info : Info) : List String :=
  [info.service, info.language, info.environment, info.version]

def ofValues (values : List String) : Info :=
  ⟨values.getD 0 "", values.getD 1 "", values.getD 2 "", values.getD 3 ""⟩

def encode (info : Info) : String :=
  String.ofList (shape.write info.values)

def decode (body : Octets) : Except Json.Fault Info :=
  (shape.decode body).map ofValues

end Info

end Beacon
