import EdgeApi.Client.Call

/-!
# Domains of workers

Bindings of host names to an environment of a worker service.
-/

set_option autoImplicit false

namespace EdgeApi.Hosting

structure WorkersDomain where
  id : String
  zoneId : String
  zoneName : String
  hostname : String
  service : String
  environment : String
  deriving DecidableEq

namespace WorkersDomain

def fields := (
  .cons (.words "id" id) <|
  .cons (.words "zone_id" zoneId) <|
  .cons (.words "zone_name" zoneName) <|
  .cons (.required "hostname" .text hostname) <|
  .cons (.required "service" .text service) <|
  .cons (.required "environment" .text environment) .nil : Fields WorkersDomain _ _)

def codec : Codec WorkersDomain :=
  .record "WorkersDomain" fields fun (id, zoneId, zoneName, hostname, service, environment, ()) =>
    { id, zoneId, zoneName, hostname, service, environment }

def path (c : Container) : String :=
  c.path ++ "/workers/domains"

def needs (id : String) : List Need :=
  [.filled id (.missingResourceId "domain id")]

structure Filter where
  zoneId : Option String
  zoneName : Option String
  hostname : Option String
  service : Option String
  environment : Option String

def Filter.query (f : Filter) : Uri.Query :=
  .opt "zone_id" f.zoneId ++ .opt "zone_name" f.zoneName ++ .opt "hostname" f.hostname ++
  .opt "service" f.service ++ .opt "environment" f.environment

/-- The host name to bind and what to bind it to. -/
structure Binding where
  zoneId : String
  hostname : String
  service : String
  environment : String

def list (f : Filter) : Call (List WorkersDomain) where
  scope := .only .account
  needs := []
  exchange := fun c => Client.get (.list codec) (Uri.build (path c) f.query)

/-- Binds a host name, in place of any binding that it has. -/
def attach (b : Binding) : Call WorkersDomain where
  scope := .only .account
  needs :=
    [.filled b.zoneId .missingZoneId, .filled b.hostname .missingHostname,
      .filled b.service .missingService, .filled b.environment .missingEnvironment]
  exchange := fun c =>
    Client.put codec (path c) <| .object
      [("zone_id", .text b.zoneId), ("hostname", .text b.hostname), ("service", .text b.service),
        ("environment", .text b.environment)]

def get (id : String) : Call WorkersDomain where
  scope := .only .account
  needs := needs id
  exchange := fun c => Client.get codec (path c ++ "/" ++ id)

def detach (id : String) : Call Unit where
  scope := .only .account
  needs := needs id
  exchange := fun c => Client.delete (path c ++ "/" ++ id)

end WorkersDomain

end EdgeApi.Hosting
