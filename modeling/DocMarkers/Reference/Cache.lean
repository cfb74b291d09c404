import DocMarkers.Entries
import DocMarkers.Quantity
import DocMarkers.Reference.Summary

set_option autoImplicit false

namespace DocMarkers

abbrev Cache (τ : Type) := Entries Text (τ × Summary)

namespace Cache

variable {τ : Type} [Quantity τ]

def isExpired (lifetime now stored : τ) : Bool :=
  Quantity.le lifetime (Quantity.sub now stored)

def lookUp (cache : Cache τ) (lifetime now : τ) (title : Text) : Option Summary × Cache τ :=
  match Entries.get? cache title with
  | none => (none, cache)
  | some (stored, summary) =>
    if isExpired lifetime now stored then (none, Entries.erase cache title)
    else (some summary, cache)

def store (cache : Cache τ) (title : Text) (now : τ) (summary : Summary) : Cache τ :=
  Entries.put cache title (now, summary)

end Cache

end DocMarkers
