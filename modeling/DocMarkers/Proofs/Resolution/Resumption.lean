import DocMarkers.Proofs.Resolution.Run

set_option autoImplicit false

namespace DocMarkers

variable {σ ω τ : Type}

def Run.andThen (earlier later : Run σ ω τ) : Run σ ω τ :=
  { later with
    iterations := earlier.iterations + later.iterations
    traces := earlier.traces ++ later.traces }

-- A round is told how many are left after it, and to those the later run adds its own.
theorem runBy_add (round : Nat → Text → σ → ω → Round σ ω τ) (first second : Nat) (text : Text)
    (state : σ) (watch : ω) :
    runBy round (first + second) text state watch =
      let earlier := runBy (fun left => round (left + second)) first text state watch
      earlier.andThen (runBy round second earlier.text earlier.state earlier.watch) := by
  induction first generalizing text state watch with
  | zero => simp [runBy, Run.andThen]
  | succ first ih =>
    by_cases fixed : Document.markers text = []
    · simp only [runBy_of_fixpoint _ fixed, Run.andThen, Nat.add_zero, List.append_nil]
    · rw [Nat.succ_add, runBy_succ round fixed, runBy_succ _ fixed]
      simp only [ih, Run.andThen, List.append_assoc, Nat.add_right_comm _ 1]

namespace Dispatcher

variable [Quantity τ]

/-- Nothing is lost between a run and the run that resolves the text it leaves: whether the first ended
at a fixpoint or with its iterations used up, the two come to what one run comes to that is given the
iterations of both. -/
theorem resumed_without_loss (d : Dispatcher σ ω τ) (first second : Nat) (document : Text)
    (values : List (Text × Value)) (state : σ) (watch : ω) :
    (let earlier := d.resolve first document values state watch
     d.resolve (first + second) document values state watch =
        earlier.andThen (d.resolve second earlier.text [] earlier.state earlier.watch)) ∧
    ∀ (courses : Courses σ) (schedules : Nat → List Nat),
      let earlier := d.resolveInterleaved courses (fun left => schedules (left + second)) first
        document values state watch
      d.resolveInterleaved courses schedules (first + second) document values state watch =
        earlier.andThen
          (d.resolveInterleaved courses schedules second earlier.text [] earlier.state
            earlier.watch) := by
  constructor
  · simp only [resolve, run_eq_runBy]
    exact runBy_add _ first second _ state watch
  · intro courses schedules
    exact runBy_add _ first second _ state watch

end Dispatcher

end DocMarkers
