import DocMarkers.Number
import DocMarkers.Proofs.Resolution.Run
import DocMarkers.Proofs.Scanning.Nested

set_option autoImplicit false

namespace DocMarkers

namespace Nested

structure Evaluation where
  text : Text
  resolved : Bool

def Evaluation.append (first second : Evaluation) : Evaluation :=
  ⟨first.text ++ second.text, first.resolved && second.resolved⟩

def advance (answer : Marker → Option PlainText) : Nested → Nested
  | done => done
  | text content rest => text content (rest.advance answer)
  | bare name rest =>
    match answer ⟨name.1, none⟩ with
    | some output => text output (rest.advance answer)
    | none => bare name (rest.advance answer)
  | framed name params rest =>
    if params.height = 0 then
      match answer ⟨name.1, some params.render⟩ with
      | some output => text output (rest.advance answer)
      | none => framed name params (rest.advance answer)
    else framed name (params.advance answer) (rest.advance answer)

def texts (answer : Marker → Option PlainText) (marker : Marker) : Option Text :=
  (answer marker).map Subtype.val

end Nested

namespace Dispatcher

variable {σ ω τ : Type} [Quantity τ]

end Dispatcher

end DocMarkers
