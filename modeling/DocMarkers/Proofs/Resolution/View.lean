import DocMarkers.Resolution.Run

set_option autoImplicit false

namespace DocMarkers

variable {σ ω τ : Type}

/-- An act does the same to a view as to what is viewed. -/
def Respects {α : Type} (view : σ → σ) (kind : σ → Prop) (act : σ → α × σ) : Prop :=
  ∀ state, kind state →
    act (view state) = ((act state).1, view (act state).2) ∧ kind (act state).2

theorem Respects.run {α : Type} {view : σ → σ} {kind : σ → Prop} {act : σ → α × σ}
    (respects : Respects view kind act) {state : σ} (known : kind state) :
    ∃ result next, act state = (result, next) ∧ act (view state) = (result, view next) ∧
      kind next :=
  ⟨_, _, rfl, respects state known⟩

def Inert {α : Type} (view : σ → σ) (kind : σ → Prop) (act : σ → α × σ) : Prop :=
  ∃ result, ∀ state, kind state →
    act (view state) = (result, view state) ∧
      ∃ next, act state = (result, next) ∧ view next = view state ∧ kind next

theorem Inert.respects {α : Type} {view : σ → σ} {kind : σ → Prop} {act : σ → α × σ}
    (inert : Inert view kind act) : Respects view kind act := by
  obtain ⟨result, comesTo⟩ := inert
  intro state known
  obtain ⟨viewed, next, here, unseen, known⟩ := comesTo state known
  rw [here]
  exact ⟨viewed.trans (by rw [unseen]), known⟩

namespace Dispatcher

variable [Quantity τ] {view : σ → σ} {kind : σ → Prop} {state : σ}

structure IgnoresView (d : Dispatcher σ ω τ) (view : σ → σ) (kind : σ → Prop) : Prop where
  clock : ∀ state, d.clock (view state) = d.clock state
  handlers : ∀ spec ∈ d.registry.specs, ∀ arguments,
    Respects view kind (spec.handler arguments)

namespace IgnoresView

variable {d : Dispatcher σ ω τ} (ignores : d.IgnoresView view kind)
include ignores

theorem execute (known : kind state) (marker : Marker) (watch : ω) :
    ∃ dispatch next after, d.execute marker state watch = (dispatch, next, after) ∧
      d.execute marker (view state) watch = (dispatch, view next, after) ∧ kind next := by
  unfold Dispatcher.execute
  cases found : d.registry.find? marker.name with
  | none => exact ⟨_, _, _, rfl, rfl, known⟩
  | some spec =>
    obtain ⟨result, next, here, there, after⟩ :=
      (ignores.handlers spec (List.mem_of_find?_eq_some found)
        (spec.splitMode.split marker.params)).run known
    simp only [MarkerSpec.invoke, here, there, ignores.clock]
    cases result with
    | error failure => exact ⟨_, _, _, rfl, by simp only [ignores.clock], after⟩
    | ok value => exact ⟨_, _, _, rfl, by simp only [ignores.clock], after⟩

theorem resolveOne (known : kind state) (marker : Marker) (watch : ω) :
    ∃ reply next after, d.resolveOne marker state watch = (reply, next, after) ∧
      d.resolveOne marker (view state) watch = (reply, view next, after) ∧ kind next := by
  unfold Dispatcher.resolveOne
  split
  next =>
    obtain ⟨dispatch, next, after, here, there, known⟩ := ignores.execute known marker watch
    simp only [here, there]
    cases dispatch.result with
    | error failure => exact ⟨_, _, _, rfl, rfl, known⟩
    | ok output => exact ⟨_, _, _, rfl, rfl, known⟩
  next => exact ⟨_, _, _, rfl, rfl, known⟩

theorem resolveAll (known : kind state) (markers : List Marker) (watch : ω) :
    d.resolveAll markers (view state) watch =
        { d.resolveAll markers state watch with
          state := view (d.resolveAll markers state watch).state } ∧
      kind (d.resolveAll markers state watch).state := by
  induction markers generalizing state watch with
  | nil => exact ⟨rfl, known⟩
  | cons marker rest ih =>
    obtain ⟨reply, next, after, here, there, known⟩ := ignores.resolveOne known marker watch
    obtain ⟨same, known⟩ := ih known after
    simpa only [Dispatcher.resolveAll, here, there, same, true_and] using known

theorem round (known : kind state) (text : Text) (watch : ω) :
    d.round text (view state) watch =
        { d.round text state watch with state := view (d.round text state watch).state } ∧
      kind (d.round text state watch).state :=
  ignores.resolveAll known (distinct (Document.markers text)) watch

theorem run (known : kind state) (left : Nat) (text : Text) (watch : ω) :
    d.run left text (view state) watch =
        { d.run left text state watch with state := view (d.run left text state watch).state } ∧
      kind (d.run left text state watch).state := by
  induction left generalizing text state watch with
  | zero => exact ⟨rfl, known⟩
  | succ left ih =>
    unfold Dispatcher.run
    split
    next => exact ⟨rfl, known⟩
    next =>
      obtain ⟨same, known⟩ := ignores.round known text watch
      obtain ⟨rest, known⟩ := ih known ((d.round text state watch).apply text)
        (d.round text state watch).watch
      have applied : Round.apply { d.round text state watch with
          state := view (d.round text state watch).state } text =
            (d.round text state watch).apply text := rfl
      simpa only [same, applied, rest, true_and] using known

end IgnoresView

end Dispatcher

end DocMarkers
