import DocMarkers.Marker.Beginnings
import DocMarkers.Resolution.Record

set_option autoImplicit false

namespace DocMarkers

structure Service (τ : Type) where
  session : Session τ
  registry : Registry (Session τ)
  settings : ResolutionSettings
  store : RecordStore τ

structure Outcome (τ : Type) where
  text : Text
  iterations : Nat
  endState : EndState
  traces : List (MarkerTrace τ)
  id : Option Text

namespace Service

variable {τ : Type} [Quantity τ]

def create (session : Session τ) (settings : ResolutionSettings) (store : RecordStore τ) :
    Service τ :=
  { session, settings, store, registry := ⟨Builtin.specs settings.searchFallback⟩ }

-- The built-in markers are resolved without an observer.
def dispatcher (service : Service τ) : Dispatcher (Session τ) Unit τ where
  registry := service.registry
  clock s := s.world.clock
  observer := none

/-- Resolves a document as the settings say. Where markers are dispatched together, those that wait
go on at a pace that is not known beforehand. -/
def resolveAt (pace : Pace) (service : Service τ) (document : Text)
    (values : List (Text × Value)) : Run (Session τ) Unit τ :=
  if service.settings.concurrent then
    service.dispatcher.resolveTogether (Builtin.beginnings service.settings.searchFallback) pace
      service.settings.maxIterations document values service.session ()
  else
    service.dispatcher.resolve service.settings.maxIterations document values service.session ()

def recorded (service : Service τ) (document : Text) (run : Run (Session τ) Unit τ) :
    Except Failure (Outcome τ) × Service τ :=
  let (record, store) := service.store.create run.state.world.today
    { document
      output := run.text
      iterations := run.iterations
      endState := run.endState.label
      traces := run.traces
      latency := Quantity.elapsed service.session.world.clock run.state.world.clock }
  let service := { service with session := run.state, store }
  match record with
  | .ok record =>
    (.ok { text := run.text, iterations := run.iterations, endState := run.endState,
           traces := run.traces, id := some record.id }, service)
  | .error .noRecordLeft => (.error .interrupted, service)
  | .error failure => (.error failure, service)

def processAt (pace : Pace) (service : Service τ) (document : Text)
    (values : List (Text × Value)) : Except Failure (Outcome τ) × Service τ :=
  service.recorded document (service.resolveAt pace document values)

def process (service : Service τ) (document : Text) (values : List (Text × Value)) :
    Except Failure (Outcome τ) × Service τ :=
  service.processAt (fun _ _ => 0) document values

def onSession {α : Type} (service : Service τ) (action : Session τ → α × Session τ) :
    α × Service τ :=
  let (result, session) := action service.session
  (result, { service with session })

inductive Action (τ : Type) where
  | process (document : Text) (values : List (Text × Value))
  | clearCache
  | wait (seconds : τ)

def perform (pace : Pace) (service : Service τ) :
    Action τ → Option (Except Failure (Outcome τ)) × Service τ
  | .process document values =>
    let (outcome, service) := service.processAt pace document values
    (some outcome, service)
  | .clearCache => service.onSession fun s => (none, Lookup.clearCache s)
  | .wait seconds => service.onSession fun s => (none, { s with world := s.world.wait seconds })

def performAll (paces : Nat → Pace) :
    List (Action τ) → Service τ → List (Except Failure (Outcome τ)) × Service τ
  | [], service => ([], service)
  | action :: rest, service =>
    let (outcome, service) := service.perform (paces rest.length) action
    let (outcomes, service) := performAll paces rest service
    (outcome.toList ++ outcomes, service)

def resolveOne (service : Service τ) (marker : Marker) : Text × Service τ :=
  let ((text, _), session, _) := service.dispatcher.resolveOne marker service.session ()
  (text, { service with session })

def execute (service : Service τ) (marker : Marker) : Except Raised Text × Service τ :=
  let (dispatch, session, _) := service.dispatcher.execute marker service.session ()
  (dispatch.result, { service with session })

def init (service : Service τ) : Except Failure Unit × Service τ :=
  match service.session.generator with
  | none => (.ok (), service)
  | some g =>
    let (result, g, world) := g.load service.session.world
    (result, { service with session := { service.session with generator := some g, world } })

def isReady (service : Service τ) : Bool :=
  service.session.generator.all Generator.isReady

def model? (service : Service τ) : Option Text :=
  service.session.generator.map Generator.modelId

def registerAgain (service : Service τ) : Except Failure (Service τ) :=
  (service.registry.registerAll (Builtin.specs service.settings.searchFallback)).map fun registry =>
    { service with registry }

end Service

end DocMarkers
