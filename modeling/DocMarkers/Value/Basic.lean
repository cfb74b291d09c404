import DocMarkers.Entries
import DocMarkers.Text.Basic

set_option autoImplicit false

namespace DocMarkers

inductive Value where
  | null
  | bool (b : Bool)
  | int (i : Int)
  | float (x : Float)
  | text (t : Text)
  | list (items : List Value)
  | object (fields : List (Text × Value))

namespace Value

instance : Inhabited Value := ⟨null⟩

-- Zero, the empty text, list and object, null and false count as missing.
def isPresent : Value → Bool
  | null => false
  | bool b => b
  | int i => i != 0
  | float x => x != 0.0
  | text t => !t.isEmpty
  | list items => !items.isEmpty
  | object fields => !fields.isEmpty

def orElse (value other : Value) : Value := if value.isPresent then value else other

def field (fields : List (Text × Value)) (name : Text) : Value :=
  (Entries.get? fields name).getD null

mutual

def isFinite : Value → Bool
  | float x => x.isFinite
  | list items => allFinite items
  | object fields => allFieldsFinite fields
  | _ => true

def allFinite : List Value → Bool
  | [] => true
  | item :: items => isFinite item && allFinite items

def allFieldsFinite : List (Text × Value) → Bool
  | [] => true
  | (_, value) :: fields => isFinite value && allFieldsFinite fields

end

end Value

end DocMarkers
