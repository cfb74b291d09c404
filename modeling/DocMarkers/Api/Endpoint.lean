import DocMarkers.Api.ResolveRequest
import DocMarkers.Generation.Catalog
import DocMarkers.Service

set_option autoImplicit false

namespace DocMarkers

namespace Api

def object (fields : List (String × Value)) : Value :=
  .object (fields.map fun field => (field.1.toList, field.2))

def finite (x : Float) : Value := if x.isFinite then .float x else .null

def traceValue {ν : Type} (latency : ν → Value) (trace : MarkerTrace ν) : Value :=
  object [("name", .text trace.name), ("params", .list (trace.params.map .text)),
    ("output_preview", .text trace.outputPreview), ("latency_ms", latency trace.latency),
    ("status", .text trace.status.label)]

def recordValue {ν : Type} (latency : ν → Value) (record : Record ν) : Value :=
  object [("trace_id", .text record.id), ("timestamp_utc", .text record.timestamp),
    ("input_preview", .text record.inputPreview), ("output_preview", .text record.outputPreview),
    ("iterations", .int record.iterations), ("state", .text record.endState),
    ("marker_traces", .list (record.traces.map (traceValue latency))),
    ("unresolved_markers", .int record.unresolved), ("latency_ms", latency record.latency)]

def metricsValue {ν : Type} (latency : ν → Value) (metrics : Metrics ν) : Value :=
  object [("total_requests", .int metrics.totalRequests),
    ("avg_latency_ms", latency metrics.averageLatency),
    ("p95_latency_ms", latency metrics.latency95),
    ("avg_iterations", latency metrics.averageIterations),
    ("total_markers", .int metrics.totalMarkers), ("failed_markers", .int metrics.failedMarkers),
    ("capped_requests", .int metrics.cappedRequests)]

def modelValue (service : Service Float) : Value := service.model?.elim .null .text

def countedRecords : Int := 1000

def health (service : Service Float) : Value :=
  let hasGenerator := service.session.generator.isSome
  object [("status", .text "ok".toList), ("llm_configured", .bool hasGenerator),
    ("mode", .text (if hasGenerator then "ai".toList else "deterministic".toList)),
    ("model", modelValue service),
    ("trace_count", .int (service.store.recent countedRecords).length)]

def models (service : Service Float) : Value :=
  let infoValue (info : ModelInfo) : Value :=
    .object (info.toFields.map fun field => (field.1, .text field.2))
  object [("items", .object (ModelInfo.catalog.map fun info => (info.key, infoValue info))),
    ("current", modelValue service)]

def markers (service : Service Float) : Value :=
  object [("items", .list (service.registry.specs.map fun spec => .object spec.toFields))]

def resolve (service : Service Float) (body : Bytes) : Answer × Service Float :=
  match ResolveRequest.read service.session.world.readDepth body with
  | .error answer => (answer, service)
  | .ok request =>
    match service.process request.text request.data with
    | (.error failure, service) => (.detail 500 failure.message, service)
    | (.ok outcome, service) =>
      (.value 200 (object [("text", .text outcome.text), ("iterations", .int outcome.iterations),
        ("state", .text outcome.endState.label), ("trace_id", outcome.id.elim .null .text),
        ("markers", .list (outcome.traces.map (traceValue finite)))]), service)

def traces (service : Service Float) (message : Message) : Answer :=
  let limit : Field.Read Int := match message.query? "limit".toList with
    | none => .ok RecordStore.listLength
    | some text => Field.intOfText text
  match limit with
  | .ok limit =>
    .value 200 (object [("items", .list ((service.store.recent limit).map (recordValue finite)))])
  | .error kind => .issues [⟨[.name "query".toList, .name "limit".toList], kind⟩]

def traceOf (service : Service Float) (id : Text) : Answer :=
  match service.store.get id with
  | .ok record => .value 200 (recordValue finite record)
  | .error failure => .detail 404 (Quoted.encode failure.message)

def metrics (service : Service Float) : Answer :=
  match service.store.summary with
  | .ok metrics => .value 200 (metricsValue finite metrics)
  | .error failure => .failed failure

inductive Endpoint where
  | health
  | resolve
  | markers
  | models
  | clearCache
  | traces
  | trace (id : Text)
  | metrics
deriving DecidableEq, Repr

namespace Endpoint

def ofFixedPath? (path : Text) : Option Endpoint :=
  match String.ofList path with
  | "/health" => some health
  | "/resolve" => some resolve
  | "/markers" => some markers
  | "/models" => some models
  | "/cache/clear" => some clearCache
  | "/traces" => some traces
  | "/metrics" => some metrics
  | _ => none

def withoutLineEnd (text : Text) : Text :=
  if text.getLast? = some '\n' then text.dropLast else text

-- Slashes at the end of a path do not matter, nor does a line end behind a path that is fixed.
def ofPath? (path : Text) : Option Endpoint :=
  let ended := (path.reverse.dropWhile (· == '/')).reverse
  match Text.splitOn '/' ended with
  | [[], parent, id] =>
    if parent = "traces".toList then some (trace id) else ofFixedPath? (withoutLineEnd ended)
  | _ => ofFixedPath? (withoutLineEnd ended)

def method : Endpoint → Text
  | resolve => "POST".toList
  | clearCache => "POST".toList
  | _ => "GET".toList

end Endpoint

def respond (service : Service Float) (message : Message) : Answer × Service Float :=
  match Endpoint.ofPath? message.path with
  | none => (.notFound, service)
  | some endpoint =>
    if endpoint.method == message.method then
      match endpoint with
      | .health => (.value 200 (health service), service)
      | .resolve => resolve service message.body
      | .markers => (.value 200 (markers service), service)
      | .models => (.value 200 (models service), service)
      | .clearCache =>
        let ((), service) := service.onSession fun s => ((), Lookup.clearCache s)
        (.value 200 (object [("status", .text "cleared".toList)]), service)
      | .traces => (traces service message, service)
      | .trace id => (traceOf service id, service)
      | .metrics => (metrics service, service)
    else (.methodNotAllowed, service)

def receive (service : Service Float) (method target : Text) (body : Bytes) :
    Answer × Service Float :=
  match Message.ofTarget method target body with
  | .error fault => (.failed (.invalidAddress fault.message), service)
  | .ok message => respond service message

end Api

end DocMarkers
