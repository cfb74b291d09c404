import DocMarkers.Proofs.Resolution.Round
import DocMarkers.Resolution.Interleaved

set_option autoImplicit false

namespace DocMarkers

variable {σ ω τ : Type}

structure Run.Ends (limit : Nat) (run : Run σ ω τ) : Prop where
  within : run.iterations ≤ limit
  fixpoint : run.endState = .fixpoint ↔ Document.markers run.text = []
  capped : run.endState = .capped ↔ Document.markers run.text ≠ []
  used : run.endState = .capped → run.iterations = limit

namespace Run.Ends

variable {limit : Nat} {run : Run σ ω τ}

theorem of_fixpoint (ended : run.endState = .fixpoint) (none : Document.markers run.text = [])
    (within : run.iterations ≤ limit) : run.Ends limit where
  within := within
  fixpoint := iff_of_true ended none
  capped := by simp [ended, none]
  used := by simp [ended]

theorem of_capped (ended : run.endState = .capped) (some : Document.markers run.text ≠ [])
    (used : run.iterations = limit) : run.Ends limit where
  within := Nat.le_of_eq used
  fixpoint := by simp [ended, some]
  capped := iff_of_true ended some
  used _ := used

theorem cases (ends : run.Ends limit) :
    run.endState = .fixpoint ∧ Document.markers run.text = [] ∨
      run.endState = .capped ∧ Document.markers run.text ≠ [] ∧ run.iterations = limit := by
  cases ended : run.endState with
  | fixpoint => exact .inl ⟨rfl, ends.fixpoint.1 ended⟩
  | capped => exact .inr ⟨rfl, ends.capped.1 ended, ends.used ended⟩

end Run.Ends

section RunBy

variable (round : Nat → Text → σ → ω → Round σ ω τ) {text : Text}

theorem runBy_of_fixpoint (fixed : Document.markers text = []) (limit : Nat) (state : σ)
    (watch : ω) :
    runBy round limit text state watch =
      { text, iterations := 0, endState := .fixpoint, traces := [], state, watch } := by
  cases limit <;> simp [runBy, fixed]

theorem runBy_zero (unresolved : Document.markers text ≠ []) (state : σ) (watch : ω) :
    runBy round 0 text state watch =
      { text, iterations := 0, endState := .capped, traces := [], state, watch } := by
  simp [runBy, unresolved]

theorem runBy_succ (unresolved : Document.markers text ≠ []) (left : Nat) (state : σ) (watch : ω) :
    runBy round (left + 1) text state watch =
      let first := round left text state watch
      let rest := runBy round left (first.apply text) first.state first.watch
      { rest with iterations := rest.iterations + 1, traces := first.traces ++ rest.traces } := by
  simp [runBy, unresolved]

theorem roundsBy_of_fixpoint (fixed : Document.markers text = []) (limit : Nat) (state : σ)
    (watch : ω) : roundsBy round limit text state watch = [] := by
  cases limit <;> simp [roundsBy, fixed]

theorem roundsBy_succ (unresolved : Document.markers text ≠ []) (left : Nat) (state : σ)
    (watch : ω) :
    roundsBy round (left + 1) text state watch =
      let first := round left text state watch
      first :: roundsBy round left (first.apply text) first.state first.watch := by
  simp [roundsBy, unresolved]

-- Nothing is known of the text that an iteration leaves, so the induction goes over all of them.
theorem runBy_ends (limit : Nat) (text : Text) (state : σ) (watch : ω) :
    (runBy round limit text state watch).Ends limit := by
  induction limit generalizing text state watch with
  | zero =>
    by_cases fixed : Document.markers text = []
    · rw [runBy_of_fixpoint round fixed]
      exact .of_fixpoint rfl fixed (Nat.le_refl _)
    · rw [runBy_zero round fixed]
      exact .of_capped rfl fixed rfl
  | succ left ih =>
    by_cases fixed : Document.markers text = []
    · rw [runBy_of_fixpoint round fixed]
      exact .of_fixpoint rfl fixed (Nat.zero_le _)
    · rw [runBy_succ round fixed]
      obtain ⟨within, fixpoint, capped, used⟩ := ih ((round left text state watch).apply text)
        (round left text state watch).state (round left text state watch).watch
      exact ⟨Nat.succ_le_succ within, fixpoint, capped, fun isCapped =>
        congrArg (· + 1) (used isCapped)⟩

theorem runBy_text_of_failed {round : Nat → Text → σ → ω → Round σ ω τ}
    (unchanged : ∀ {left text state watch},
      (∀ trace ∈ (round left text state watch).traces, trace.status ≠ .ok) →
        (round left text state watch).apply text = text)
    {limit : Nat} {text : Text} {state : σ} {watch : ω}
    (failed : ∀ trace ∈ (runBy round limit text state watch).traces, trace.status ≠ .ok) :
    (runBy round limit text state watch).text = text := by
  induction limit generalizing state watch with
  | zero => rfl
  | succ left ih =>
    by_cases fixed : Document.markers text = []
    · rw [runBy_of_fixpoint round fixed]
    · rw [runBy_succ round fixed] at failed ⊢
      have same := unchanged fun trace told => failed trace (List.mem_append_left _ told)
      simp only [same] at failed ⊢
      exact ih fun trace told => failed trace (List.mem_append_right _ told)

end RunBy

namespace Dispatcher

variable [Quantity τ]

theorem run_eq_runBy (d : Dispatcher σ ω τ) (limit : Nat) (text : Text) (state : σ) (watch : ω) :
    d.run limit text state watch = runBy (fun _ => d.round) limit text state watch := by
  induction limit generalizing text state watch with
  | zero => rfl
  | succ left ih => simp only [run, runBy, ih]

theorem run_of_fixpoint (d : Dispatcher σ ω τ) {text : Text} (fixed : Document.markers text = [])
    (limit : Nat) (state : σ) (watch : ω) :
    d.run limit text state watch =
      { text, iterations := 0, endState := .fixpoint, traces := [], state, watch } := by
  rw [run_eq_runBy, runBy_of_fixpoint _ fixed]

theorem run_succ (d : Dispatcher σ ω τ) {text : Text} (unresolved : Document.markers text ≠ [])
    (left : Nat) (state : σ) (watch : ω) :
    d.run (left + 1) text state watch =
      let round := d.round text state watch
      let rest := d.run left (round.apply text) round.state round.watch
      { rest with iterations := rest.iterations + 1, traces := round.traces ++ rest.traces } := by
  simp only [run_eq_runBy]
  exact runBy_succ _ unresolved left state watch

theorem run_ends (d : Dispatcher σ ω τ) (limit : Nat) (text : Text) (state : σ) (watch : ω) :
    (d.run limit text state watch).Ends limit := by
  rw [run_eq_runBy]
  exact runBy_ends _ limit text state watch

end Dispatcher

end DocMarkers
