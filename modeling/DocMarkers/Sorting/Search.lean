set_option autoImplicit false

namespace DocMarkers

namespace Sorting

variable {α : Type}

inductive Middle where
  | lower
  | upper
deriving DecidableEq, Repr

def Middle.place : Middle → Nat → Nat → Nat
  | lower, low, high => high - 1 - (high - low) / 2
  | upper, low, high => low + (high - low) / 2

-- How many items pass, by halving: those before `low` do and those from `high` on do not.
def countBetween (middle : Middle) (passes : α → Bool) (items : Array α) (low high : Nat) : Nat :=
  if between : low < high then
    let place := middle.place low high
    if (items[place]?).any passes then countBetween middle passes items (place + 1) high
    else countBetween middle passes items low place
  else low
termination_by high - low
decreasing_by
  all_goals cases middle <;> simp only [Middle.place] <;> omega

def countFrom (middle : Middle) (passes : α → Bool) (items : Array α) (last next : Nat) : Nat :=
  if within : last < next ∧ next < items.size then
    if (items[next]?).any passes then countFrom middle passes items next (2 * next + 1)
    else countBetween middle passes items (last + 1) next
  else countBetween middle passes items (last + 1) items.size
termination_by items.size - last

def count (middle : Middle) (passes : α → Bool) (items : List α) : Nat :=
  if items.head?.any passes then countFrom middle passes items.toArray 0 1 else 0

end Sorting

end DocMarkers
