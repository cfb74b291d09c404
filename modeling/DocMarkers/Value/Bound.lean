import DocMarkers.Failure
import DocMarkers.Value.Basic

set_option autoImplicit false

namespace DocMarkers

namespace Value

def bound : Value → Except Failure (Option Int)
  | null => .ok none
  | int i => .ok (some i)
  | bool b => .ok (some (if b then 1 else 0))
  | _ => .error .wrongKind

end Value

end DocMarkers
