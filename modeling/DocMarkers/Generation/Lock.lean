set_option autoImplicit false

namespace DocMarkers

structure Lock where
  isHeld : Bool := false
  line : List Nat := []
deriving DecidableEq, Repr

namespace Lock

-- Whether a task that comes now need not wait. Nobody enters while another one waits.
def isFree (lock : Lock) : Bool := !lock.isHeld && lock.line.isEmpty

def next? (lock : Lock) : Option Nat := if lock.isHeld then none else lock.line.head?

def take (lock : Lock) : Lock := { lock with isHeld := true }

def join (lock : Lock) (task : Nat) : Lock := { lock with line := lock.line ++ [task] }

def letIn (lock : Lock) : Lock := { isHeld := true, line := lock.line.tail }

def giveBack (lock : Lock) : Lock := { lock with isHeld := false }

end Lock

end DocMarkers
