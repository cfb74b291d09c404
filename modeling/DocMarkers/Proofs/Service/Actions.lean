import DocMarkers.Proofs.Service.Markers
import DocMarkers.Service

set_option autoImplicit false

namespace DocMarkers

namespace Service

variable {τ : Type} [Quantity τ]

theorem begunBy {service : Service τ}
    (builtIn : service.registry = ⟨Builtin.specs service.settings.searchFallback⟩) :
    service.dispatcher.BegunBy (Builtin.beginnings service.settings.searchFallback) where
  unobserved := rfl
  agrees spec member arguments := by
    simp only [dispatcher, builtIn] at member
    obtain ⟨act, handler, begins⟩ := Builtin.begins_specs _ member arguments
    exact begins.agrees.trans handler.symm

theorem resolveAt_eq_resolve {service : Service τ}
    (builtIn : service.registry = ⟨Builtin.specs service.settings.searchFallback⟩) {pace : Pace}
    (inTurn : service.settings.concurrent = true → pace = fun _ _ => 0) (document : Text)
    (values : List (Text × Value)) :
    service.resolveAt pace document values =
      service.dispatcher.resolve service.settings.maxIterations document values
        service.session () := by
  unfold resolveAt
  split
  next together =>
    rw [inTurn together]
    exact Dispatcher.runTogether_inTurn (begunBy builtIn) _ _ _ _
  next => rfl

theorem perform_settings (pace : Pace) (service : Service τ) (action : Action τ) :
    (service.perform pace action).2.settings = service.settings := by
  cases action with
  | process document values =>
    simp only [perform, processAt, recorded]
    split <;> rfl
  | _ => rfl

end Service

end DocMarkers
