import DocMarkers.Json.Reader
import DocMarkers.Reference.Topic
import DocMarkers.Session
import DocMarkers.Value.Text

set_option autoImplicit false

namespace DocMarkers

namespace Lookup

variable {τ : Type} [Quantity τ]

-- Sends a request. The response is of no use where the address does not tell how to speak to the
-- server.
def exchange (request : Request) (s : Session τ) : Except Failure Response × Session τ :=
  match s.world.addressOf request with
  | .error fault => (.error (.invalidAddress fault.message), s)
  | .ok address =>
    if s.client.isClosed then (.error .closedClient, s)
    else
      let (outcome, world) := s.world.send request
      let outcome := outcome.bind fun response =>
        if address.isAbsolute then .ok response else .error (.unknownScheme address.text)
      (outcome, { s with world })

def payload (depth : Nat) (response : Response) : Except Failure (Option Value) :=
  if response.isSuccess then
    match Json.decode depth response.body with
    | .ok value => .ok (some value)
    | .error (.nestedTooDeep inObject) => .error (.nestedTooDeep inObject)
    | .error _ => .ok none
  else .ok none

def fetch (request : Request) (s : Session τ) : Except Failure (Option Value) × Session τ :=
  match exchange request s with
  | (.ok response, s) => (payload s.world.readDepth response, s)
  | (.error failure, s) => if failure.isExchangeFault then (.ok none, s) else (.error failure, s)

def cached (title : Text) (s : Session τ) : Option Summary × Session τ :=
  let (summary, cache) :=
    Cache.lookUp s.client.cache s.client.settings.lifetime s.world.clock title
  (summary, { s with client := { s.client with cache } })

def store (title : Text) (summary : Summary) (s : Session τ) : Session τ :=
  let cache := Cache.store s.client.cache title s.world.clock summary
  { s with client := { s.client with cache } }

def summary (topic : Text) (s : Session τ) : Except Failure Summary × Session τ :=
  let title := Topic.normalize topic
  match cached title s with
  | (some summary, s) => (.ok summary, s)
  | (none, s) =>
    match fetch (.page s.client.settings.baseUrl title) s with
    | (.error failure, s) => (.error failure, s)
    | (.ok (some (.object fields)), s) =>
      match Summary.ofFields fields topic s.world.today with
      | .error failure => (.error failure, s)
      | .ok summary => (.ok summary, store title summary s)
    | (.ok _, s) => (.ok (.degraded topic s.world.today), s)

def fact (topic : Text) (s : Session τ) : Except Failure Value × Session τ :=
  match summary topic s with
  | (.error failure, s) => (.error failure, s)
  | (.ok summary, s) =>
    (.ok (summary.extract.orElse
      (.text ("Information about ".toList ++ topic ++ " not available".toList))), s)

def searchLimit : Value := .int 5

def search (query : Text) (limit : Value) (s : Session τ) :
    Except Failure (List SearchHit) × Session τ :=
  match fetch (.search s.client.settings.searchUrl query limit.render) s with
  | (.error failure, s) => (.error failure, s)
  | (.ok (some (.list items)), s) => (SearchHit.ofResult items, s)
  | (.ok _, s) => (.ok [], s)

def isUsable (summary : Summary) : Bool := !summary.isDegraded && summary.extract.isPresent

def notFound (topic : Text) : Value :=
  .text ("Unable to find information about ".toList ++ topic)

def factOrSearchBy {σ : Type} (summary : Text → σ → Except Failure Summary × σ)
    (search : Text → Value → σ → Except Failure (List SearchHit) × σ) (topic : Text) (s : σ) :
    Except Failure Value × σ :=
  match summary topic s with
  | (.error failure, s) => (.error failure, s)
  | (.ok direct, s) =>
    if isUsable direct then (.ok direct.extract, s)
    else match search topic (.int 1) s with
      | (.error failure, s) => (.error failure, s)
      | (.ok [], s) => (.ok (notFound topic), s)
      | (.ok (hit :: _), s) =>
        match hit.title with
        | .text title =>
          match summary title s with
          | (.error failure, s) => (.error failure, s)
          | (.ok found, s) =>
            if isUsable found then (.ok found.extract, s) else (.ok (notFound topic), s)
        | _ => (.error .noSuchPart, s)

def factOrSearch (topic : Text) (s : Session τ) : Except Failure Value × Session τ :=
  factOrSearchBy summary search topic s

def description (topic : Text) (s : Session τ) : Except Failure Value × Session τ :=
  match summary topic s with
  | (.error failure, s) => (.error failure, s)
  | (.ok summary, s) =>
    (.ok (summary.description.orElse (summary.shortExtract.orElse (.text topic))), s)

def pageUrl (topic : Text) (client : Client τ) : Text :=
  client.settings.pageBaseUrl ++ '/' :: Topic.normalize topic

def clearCache (s : Session τ) : Session τ :=
  { s with client := { s.client with cache := [] } }

def close (s : Session τ) : Session τ :=
  { s with client := { s.client with isClosed := s.client.isClosed || !s.client.isShared } }

end Lookup

end DocMarkers
