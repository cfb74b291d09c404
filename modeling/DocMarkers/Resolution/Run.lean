import DocMarkers.Document
import DocMarkers.Resolution.Dispatcher
import DocMarkers.Value.Text

set_option autoImplicit false

namespace DocMarkers

inductive EndState where
  | fixpoint
  | capped
deriving DecidableEq, Repr

def EndState.label : EndState → Text
  | fixpoint => "fixpoint".toList
  | capped => "capped".toList

def distinct {α : Type} [BEq α] : List α → List α
  | [] => []
  | item :: rest => item :: (distinct rest).filter (· != item)

structure Round (σ ω τ : Type) where
  replies : List (Marker × Text)
  traces : List (MarkerTrace τ)
  state : σ
  watch : ω

structure Run (σ ω τ : Type) where
  text : Text
  iterations : Nat
  endState : EndState
  traces : List (MarkerTrace τ)
  state : σ
  watch : ω

def Round.apply {σ ω τ : Type} (round : Round σ ω τ) (text : Text) : Text :=
  Document.replace (fun marker => round.replies.lookup marker) text

namespace Dispatcher

variable {σ ω τ : Type} [Quantity τ]

def resolveAll (d : Dispatcher σ ω τ) : List Marker → σ → ω → Round σ ω τ
  | [], state, watch => ⟨[], [], state, watch⟩
  | marker :: rest, state, watch =>
    let ((reply, trace), state, watch) := d.resolveOne marker state watch
    let round := d.resolveAll rest state watch
    { round with
      replies := (marker, reply) :: round.replies
      traces := trace.toList ++ round.traces }

def round (d : Dispatcher σ ω τ) (text : Text) (state : σ) (watch : ω) : Round σ ω τ :=
  d.resolveAll (distinct (Document.markers text)) state watch

def run (d : Dispatcher σ ω τ) : Nat → Text → σ → ω → Run σ ω τ
  | 0, text, state, watch =>
    { text, iterations := 0, traces := [], state, watch
      endState := if (Document.markers text).isEmpty then .fixpoint else .capped }
  | left + 1, text, state, watch =>
    if (Document.markers text).isEmpty then
      { text, iterations := 0, endState := .fixpoint, traces := [], state, watch }
    else
      let round := d.round text state watch
      let rest := d.run left (round.apply text) round.state round.watch
      { rest with iterations := rest.iterations + 1, traces := round.traces ++ rest.traces }

/-- Fills in the substituted values and runs. What cannot be told of a failure is left out. -/
def resolve (d : Dispatcher σ ω τ) (maxIterations : Nat) (document : Text)
    (values : List (Text × Value)) (state : σ) (watch : ω) : Run σ ω τ :=
  d.run maxIterations
    (Document.substitute document (values.map fun entry => (entry.1, entry.2.render))) state watch

def tryAll (d : Dispatcher σ ω τ) : List Marker → σ → ω → Except (Escape σ ω) (Round σ ω τ)
  | [], state, watch => .ok ⟨[], [], state, watch⟩
  | marker :: rest, state, watch => do
    let ((reply, trace), state, watch) ← d.tryOne marker state watch
    let round ← d.tryAll rest state watch
    return { round with
      replies := (marker, reply) :: round.replies
      traces := trace.toList ++ round.traces }

def tryRound (d : Dispatcher σ ω τ) (text : Text) (state : σ) (watch : ω) :
    Except (Escape σ ω) (Round σ ω τ) :=
  d.tryAll (distinct (Document.markers text)) state watch

end Dispatcher

section TryRunBy

variable {σ ω τ : Type}

def tryRunBy (round : Nat → Text → σ → ω → Except (Escape σ ω) (Round σ ω τ)) :
    Nat → Text → σ → ω → Except (Escape σ ω) (Run σ ω τ)
  | 0, text, state, watch =>
    .ok { text, iterations := 0, traces := [], state, watch
          endState := if (Document.markers text).isEmpty then .fixpoint else .capped }
  | left + 1, text, state, watch =>
    if (Document.markers text).isEmpty then
      .ok { text, iterations := 0, endState := .fixpoint, traces := [], state, watch }
    else do
      let first ← round left text state watch
      let rest ← tryRunBy round left (first.apply text) first.state first.watch
      return { rest with iterations := rest.iterations + 1, traces := first.traces ++ rest.traces }

end TryRunBy

namespace Dispatcher

variable {σ ω τ : Type} [Quantity τ]

def tryResolve (d : Dispatcher σ ω τ) (maxIterations : Nat) (document : Text)
    (values : List (Text × Value)) (state : σ) (watch : ω) :
    Except (Escape σ ω) (Run σ ω τ) :=
  tryRunBy (fun _ => d.tryRound) maxIterations
    (Document.substitute document (values.map fun entry => (entry.1, entry.2.render))) state watch

end Dispatcher

end DocMarkers
