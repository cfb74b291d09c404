import DocMarkers.Resolution.Run

set_option autoImplicit false

namespace DocMarkers

/-- What a handler comes to before it has to wait: its result, or what it does after the wait. -/
inductive Stage (σ : Type) where
  | done (result : Except Raised Value)
  | waits (rest : σ → Except Raised Value × σ)

abbrev Beginning (σ : Type) := σ → Stage σ × σ

def Beginning.finish {σ : Type} (beginning : Beginning σ) (state : σ) :
    Except Raised Value × σ :=
  match beginning state with
  | (.done result, state) => (result, state)
  | (.waits rest, state) => rest state

abbrev Beginnings (σ : Type) := MarkerSpec σ → List Text → Beginning σ

structure Begun (τ : Type) where
  marker : Marker
  params : List Text
  start : τ

structure Pending (σ τ : Type) extends Begun τ where
  rest : σ → Except Raised Value × σ

-- An iteration under way. Replies and traces stand in the order in which their handlers ended.
structure Gathering (σ τ : Type) where
  unbegun : List Marker
  pending : List (Pending σ τ) := []
  replies : List (Marker × Text) := []
  traces : List (MarkerTrace τ) := []
  state : σ

/-- Whom to let go on next, for each number of steps and of iterations left: one of those that wait,
or the next to begin. -/
abbrev Pace := Nat → Nat → Nat

namespace Dispatcher

variable {σ ω τ : Type} [Quantity τ]

def conclude (begun : Begun τ) (stop : τ) (result : Except Raised Value) :
    Text × MarkerTrace τ :=
  let output := result.map Value.render
  (match output with
    | .ok output => output
    | .error _ => begun.marker.literal,
   { name := begun.marker.name
     params := begun.params
     outputPreview := match output with
       | .ok output => preview output
       | .error _ => []
     latency := Quantity.elapsed begun.start stop
     status := match output with
       | .ok _ => .ok
       | .error _ => .error })

variable (d : Dispatcher σ ω τ)

def enter (g : Gathering σ τ) (begun : Begun τ) (result : Except Raised Value) (state : σ) :
    Gathering σ τ :=
  let (reply, trace) := conclude begun (d.clock state) result
  { g with
    replies := g.replies ++ [(begun.marker, reply)], traces := g.traces ++ [trace], state }

def begin (beginnings : Beginnings σ) (g : Gathering σ τ) (marker : Marker) : Gathering σ τ :=
  match d.registry.find? marker.name with
  | none =>
    { g with
      replies := g.replies ++ [(marker, marker.literal)]
      traces := g.traces ++ [unknownTrace marker] }
  | some spec =>
    let begun : Begun τ :=
      { marker, params := spec.splitMode.split marker.params, start := d.clock g.state }
    match beginnings spec begun.params g.state with
    | (.done result, state) => d.enter g begun result state
    | (.waits rest, state) => { g with pending := g.pending ++ [{ begun with rest }], state }

def goOn (g : Gathering σ τ) (index : Nat) (pending : Pending σ τ) : Gathering σ τ :=
  let (result, state) := pending.rest g.state
  d.enter { g with pending := g.pending.eraseIdx index } pending.toBegun result state

/-- Lets one of those that wait go on or, if there is none of that number, the next marker begin.
Where none is left to begin, the first that waits goes on. -/
def step (beginnings : Beginnings σ) (choice : Nat) (g : Gathering σ τ) : Gathering σ τ :=
  match g.pending[choice]?, g.unbegun, g.pending with
  | some pending, _, _ => d.goOn g choice pending
  | none, marker :: unbegun, _ => d.begin beginnings { g with unbegun } marker
  | none, [], pending :: _ => d.goOn g 0 pending
  | none, [], [] => g

def advance (beginnings : Beginnings σ) (choices : Nat → Nat) :
    Nat → Gathering σ τ → Gathering σ τ
  | 0, g => g
  | left + 1, g => advance beginnings choices left (d.step beginnings (choices left) g)

-- Every marker begins once and goes on at most once, so this many steps bring all to an end.
def gather (beginnings : Beginnings σ) (choices : Nat → Nat) (markers : List Marker) (state : σ) :
    Gathering σ τ :=
  d.advance beginnings choices (2 * markers.length) { unbegun := markers, state }

def roundTogether (beginnings : Beginnings σ) (choices : Nat → Nat) (text : Text) (state : σ)
    (watch : ω) : Round σ ω τ :=
  let g := d.gather beginnings choices (distinct (Document.markers text)) state
  { replies := g.replies, traces := g.traces, state := g.state, watch }

def runTogether (beginnings : Beginnings σ) (pace : Pace) : Nat → Text → σ → ω → Run σ ω τ
  | 0, text, state, watch =>
    { text, iterations := 0, traces := [], state, watch
      endState := if (Document.markers text).isEmpty then .fixpoint else .capped }
  | left + 1, text, state, watch =>
    if (Document.markers text).isEmpty then
      { text, iterations := 0, endState := .fixpoint, traces := [], state, watch }
    else
      let round := d.roundTogether beginnings (pace left) text state watch
      let rest := runTogether beginnings pace left (round.apply text) round.state round.watch
      { rest with iterations := rest.iterations + 1, traces := round.traces ++ rest.traces }

def resolveTogether (beginnings : Beginnings σ) (pace : Pace) (maxIterations : Nat)
    (document : Text) (values : List (Text × Value)) (state : σ) (watch : ω) : Run σ ω τ :=
  d.runTogether beginnings pace maxIterations
    (Document.substitute document (values.map fun entry => (entry.1, entry.2.render))) state watch

end Dispatcher

end DocMarkers
