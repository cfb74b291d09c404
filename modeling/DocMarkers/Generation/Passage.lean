import DocMarkers.Failure
import DocMarkers.Value.Text

set_option autoImplicit false

namespace DocMarkers

inductive Passage where
  | text (t : Text)
  | items (values : List Value)

namespace Passage

def ofValue : Value → Except Failure Passage
  | .text t => .ok (text t)
  | .list values => .ok (items values)
  | _ => .error .wrongKind

def upTo (bound : Int) : Passage → Text
  | text t => Text.upTo bound t
  | items values => Value.render (.list (values.take (Text.keptBy bound values.length)))

def all : Passage → Text
  | text t => t
  | items values => Value.render (.list values)

def text? : Passage → Except Failure Text
  | text t => .ok t
  | items _ => .error .noSuchPart

end Passage

end DocMarkers
