import DocMarkers.Resolution.Together

set_option autoImplicit false

namespace DocMarkers

/-- What is left of a handler when it waits, and what its turns do to the state. -/
inductive Course (σ : Type) where
  | ended (result : Except Raised Value)
  | waits (goOn : σ → Course σ) (change : σ → σ)

abbrev Courses (σ : Type) := MarkerSpec σ → List Text → Course σ

namespace Course

variable {σ : Type}

def finish : Course σ → σ → Except Raised Value × σ
  | ended result, state => (result, state)
  | waits goOn change, state => (goOn state).finish (change state)

def turn : Course σ → σ → Course σ × σ
  | ended result, state => (ended result, state)
  | waits goOn change, state => (goOn state, change state)

def whole (course : Course σ) (state : σ) : Course σ × σ :=
  let (result, state) := course.finish state
  (ended result, state)

end Course

inductive Task (σ τ : Type) where
  | unbegun (marker : Marker)
  | underWay (begun : Begun τ) (course : Course σ)
  | ended (reply : Text)

def Task.reply {σ τ : Type} : Task σ τ → Text
  | unbegun marker => marker.literal
  | underWay begun _ => begun.marker.literal
  | ended reply => reply

-- Tasks stand in the order of their markers, traces in the order in which tasks ended.
structure Interleaving (σ ω τ : Type) where
  tasks : List (Task σ τ)
  traces : List (MarkerTrace τ) := []
  -- What telling the failures of tasks failed with, in the same order.
  faults : List Failure := []
  state : σ
  watch : ω

namespace Dispatcher

variable {σ ω τ : Type} [Quantity τ] (d : Dispatcher σ ω τ) (courses : Courses σ)

def settle (begun : Begun τ) (result : Except Raised Value) (state : σ) (watch : ω) :
    (Text × Option (MarkerTrace τ)) × ω :=
  let (_, trace) := conclude begun (d.clock state) result
  let (dispatch, watch) := d.report trace (result.map Value.render) watch
  ((match dispatch.result with
    | .ok output => output
    | .error _ => begun.marker.literal, dispatch.trace), watch)

-- What telling the failure of a dispatch fails with when its handler has ended.
def settleFault? (begun : Begun τ) (result : Except Raised Value) (state : σ) (watch : ω) :
    Option Failure :=
  let (_, trace) := conclude begun (d.clock state) result
  (d.report trace (result.map Value.render) watch).1.fault?

def proceed (far : Course σ → σ → Course σ × σ) (g : Interleaving σ ω τ) (index : Nat)
    (begun : Begun τ) (course : Course σ) : Interleaving σ ω τ :=
  match far course g.state with
  | (.ended result, state) =>
    let ((reply, trace), watch) := d.settle begun result state g.watch
    { tasks := g.tasks.set index (.ended reply), traces := g.traces ++ trace.toList, state, watch
      faults := g.faults ++ (d.settleFault? begun result state g.watch).toList }
  | (course, state) => { g with tasks := g.tasks.set index (.underWay begun course), state }

def move (far : Course σ → σ → Course σ × σ) (g : Interleaving σ ω τ) (index : Nat) :
    Interleaving σ ω τ :=
  match g.tasks[index]? with
  | some (.unbegun marker) =>
    match d.registry.find? marker.name with
    | none =>
      { g with
        tasks := g.tasks.set index (.ended marker.literal)
        traces := g.traces ++ [unknownTrace marker] }
    | some spec =>
      let params := spec.splitMode.split marker.params
      d.proceed far g index { marker, params, start := d.clock g.state } (courses spec params)
  | some (.underWay begun course) => d.proceed far g index begun course
  | _ => g

/-- Gives turns in the order of a schedule. Tasks that have not ended by then end one after another. -/
def interleave (schedule : List Nat) (markers : List Marker) (state : σ) (watch : ω) :
    Interleaving σ ω τ :=
  (List.range markers.length).foldl (d.move courses Course.whole)
    (schedule.foldl (d.move courses Course.turn)
      { tasks := markers.map .unbegun, state, watch })

def roundInterleaved (schedule : List Nat) (text : Text) (state : σ) (watch : ω) : Round σ ω τ :=
  let markers := distinct (Document.markers text)
  let g := d.interleave courses schedule markers state watch
  { replies := markers.zip (g.tasks.map Task.reply)
    traces := g.traces, state := g.state, watch := g.watch }

/-- The first fault that a task meets is that of the iteration, once the other tasks have ended. -/
def tryRoundInterleaved (schedule : List Nat) (text : Text) (state : σ) (watch : ω) :
    Except (Escape σ ω) (Round σ ω τ) :=
  let g := d.interleave courses schedule (distinct (Document.markers text)) state watch
  match g.faults with
  | [] => .ok (d.roundInterleaved courses schedule text state watch)
  | fault :: _ => .error { fault, state := g.state, watch := g.watch }

end Dispatcher

section RunBy

variable {σ ω τ : Type}

def runBy (round : Nat → Text → σ → ω → Round σ ω τ) : Nat → Text → σ → ω → Run σ ω τ
  | 0, text, state, watch =>
    { text, iterations := 0, traces := [], state, watch
      endState := if (Document.markers text).isEmpty then .fixpoint else .capped }
  | left + 1, text, state, watch =>
    if (Document.markers text).isEmpty then
      { text, iterations := 0, endState := .fixpoint, traces := [], state, watch }
    else
      let first := round left text state watch
      let rest := runBy round left (first.apply text) first.state first.watch
      { rest with iterations := rest.iterations + 1, traces := first.traces ++ rest.traces }

def roundsBy (round : Nat → Text → σ → ω → Round σ ω τ) :
    Nat → Text → σ → ω → List (Round σ ω τ)
  | 0, _, _, _ => []
  | left + 1, text, state, watch =>
    if (Document.markers text).isEmpty then []
    else
      let first := round left text state watch
      first :: roundsBy round left (first.apply text) first.state first.watch

end RunBy

namespace Dispatcher

variable {σ ω τ : Type} [Quantity τ] (d : Dispatcher σ ω τ)

def rounds (maxIterations : Nat) (document : Text) (values : List (Text × Value)) (state : σ)
    (watch : ω) : List (Round σ ω τ) :=
  roundsBy (fun _ => d.round) maxIterations
    (Document.substitute document (values.map fun entry => (entry.1, entry.2.render))) state watch

def resolveInterleaved (courses : Courses σ) (schedules : Nat → List Nat) (maxIterations : Nat)
    (document : Text) (values : List (Text × Value)) (state : σ) (watch : ω) : Run σ ω τ :=
  runBy (fun left => d.roundInterleaved courses (schedules left)) maxIterations
    (Document.substitute document (values.map fun entry => (entry.1, entry.2.render))) state watch

def tryResolveInterleaved (courses : Courses σ) (schedules : Nat → List Nat) (maxIterations : Nat)
    (document : Text) (values : List (Text × Value)) (state : σ) (watch : ω) :
    Except (Escape σ ω) (Run σ ω τ) :=
  tryRunBy (fun left => d.tryRoundInterleaved courses (schedules left)) maxIterations
    (Document.substitute document (values.map fun entry => (entry.1, entry.2.render))) state watch

def roundsInterleaved (courses : Courses σ) (schedules : Nat → List Nat) (maxIterations : Nat)
    (document : Text) (values : List (Text × Value)) (state : σ) (watch : ω) :
    List (Round σ ω τ) :=
  roundsBy (fun left => d.roundInterleaved courses (schedules left)) maxIterations
    (Document.substitute document (values.map fun entry => (entry.1, entry.2.render))) state watch

end Dispatcher

end DocMarkers
