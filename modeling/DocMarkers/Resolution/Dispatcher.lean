import DocMarkers.Marker.Registry
import DocMarkers.Quantity
import DocMarkers.Resolution.Trace

set_option autoImplicit false

namespace DocMarkers

abbrev Observer (ω τ : Type) := MarkerTrace τ → ω → Except Raised Unit × ω

structure Dispatcher (σ ω τ : Type) where
  registry : Registry σ
  clock : σ → τ
  observer : Option (Observer ω τ)

structure Dispatch (τ : Type) where
  result : Except Raised Text
  trace : Option (MarkerTrace τ)

def Dispatch.fault? {τ : Type} (dispatch : Dispatch τ) : Option Failure :=
  match dispatch.result with
  | .error (.untold fault) => some fault
  | _ => none

structure Escape (σ ω : Type) where
  fault : Failure
  state : σ
  watch : ω
deriving DecidableEq

namespace Dispatcher

variable {σ ω τ : Type} [Quantity τ]

def notify (d : Dispatcher σ ω τ) (trace : MarkerTrace τ) (watch : ω) : Except Raised Unit × ω :=
  match d.observer with
  | none => (.ok (), watch)
  | some observer => observer trace watch

def report (d : Dispatcher σ ω τ) (trace : MarkerTrace τ) (result : Except Raised Text)
    (watch : ω) : Dispatch τ × ω :=
  match d.notify trace watch with
  | (.ok (), watch) => (⟨result, some trace⟩, watch)
  | (.error refusal, watch) => (⟨.error refusal, none⟩, watch)

def execute (d : Dispatcher σ ω τ) (marker : Marker) (state : σ) (watch : ω) :
    Dispatch τ × σ × ω :=
  match d.registry.find? marker.name with
  | none => (⟨.error (.told (.unknownMarker marker.name)), none⟩, state, watch)
  | some spec =>
    let params := spec.splitMode.split marker.params
    let start := d.clock state
    let (result, state) := spec.invoke params state
    let trace : MarkerTrace τ :=
      { name := marker.name
        params
        outputPreview := match result with
          | .ok output => preview output
          | .error _ => []
        latency := Quantity.elapsed start (d.clock state)
        status := match result with
          | .ok _ => .ok
          | .error _ => .error }
    let (dispatch, watch) := d.report trace result watch
    (dispatch, state, watch)

-- What a marker without a handler is reported as; only its caller hears of it.
def unknownTrace (marker : Marker) : MarkerTrace τ :=
  { name := marker.name, params := [], outputPreview := marker.literal
    latency := Quantity.zero, status := .unknown }

/-- The text that takes the place of a marker: its own, unless its handler succeeds. So it is if
failures can be told. -/
def resolveOne (d : Dispatcher σ ω τ) (marker : Marker) (state : σ) (watch : ω) :
    (Text × Option (MarkerTrace τ)) × σ × ω :=
  if d.registry.contains marker.name then
    let (dispatch, state, watch) := d.execute marker state watch
    match dispatch.result with
    | .ok output => ((output, dispatch.trace), state, watch)
    | .error _ => ((marker.literal, dispatch.trace), state, watch)
  else ((marker.literal, some (unknownTrace marker)), state, watch)

def tryOne (d : Dispatcher σ ω τ) (marker : Marker) (state : σ) (watch : ω) :
    Except (Escape σ ω) ((Text × Option (MarkerTrace τ)) × σ × ω) :=
  if d.registry.contains marker.name then
    let (dispatch, state, watch) := d.execute marker state watch
    match dispatch.result with
    | .ok output => .ok ((output, dispatch.trace), state, watch)
    | .error (.told _) => .ok ((marker.literal, dispatch.trace), state, watch)
    | .error (.untold fault) => .error { fault, state, watch }
  else .ok ((marker.literal, some (unknownTrace marker)), state, watch)

end Dispatcher

end DocMarkers
