import DocMarkers.Marker.Spec

set_option autoImplicit false

namespace DocMarkers

structure Registry (σ : Type) where
  specs : List (MarkerSpec σ)

namespace Registry

variable {σ : Type}

def empty : Registry σ := ⟨[]⟩

def find? (registry : Registry σ) (name : Text) : Option (MarkerSpec σ) :=
  registry.specs.find? fun spec => spec.name == name

def contains (registry : Registry σ) (name : Text) : Bool := (registry.find? name).isSome

def names (registry : Registry σ) : List Text := registry.specs.map MarkerSpec.name

def register (registry : Registry σ) (spec : MarkerSpec σ) : Except Failure (Registry σ) :=
  if registry.contains spec.name then .error (.duplicateMarker spec.name)
  else .ok ⟨registry.specs ++ [spec]⟩

def registerAll (registry : Registry σ) : List (MarkerSpec σ) → Except Failure (Registry σ)
  | [] => .ok registry
  | spec :: specs =>
    match registry.register spec with
    | .ok registry => registry.registerAll specs
    | .error failure => .error failure

end Registry

end DocMarkers
