import DocMarkers.Proofs.Scanning.Document

set_option autoImplicit false

namespace DocMarkers

abbrev PlainText : Type := { text : Text // text.IsPlain }

abbrev MarkerName : Type := { name : Text // Marker.isName name = true }

inductive Nested where
  | done
  | text (content : PlainText) (rest : Nested)
  | bare (name : MarkerName) (rest : Nested)
  | framed (name : MarkerName) (params rest : Nested)

namespace Nested

def render : Nested → Text
  | done => []
  | text content rest => content.1 ++ rest.render
  | bare name rest => Marker.literal ⟨name.1, none⟩ ++ rest.render
  | framed name params rest => Marker.literal ⟨name.1, some params.render⟩ ++ rest.render

def height : Nested → Nat
  | done => 0
  | text _ rest => rest.height
  | bare _ rest => max 1 rest.height
  | framed _ params rest => max (params.height + 1) rest.height

def opening (name : MarkerName) : Text := '{' :: '{' :: (name.1 ++ [':'])

theorem literal_eq (name : MarkerName) (inner : Text) :
    Marker.literal ⟨name.1, some inner⟩ = opening name ++ (inner ++ ['}', '}']) := by
  simp [Marker.literal, opening]

theorem not_mem_opening (name : MarkerName) : '}' ∉ opening name := by
  have unclosed : '}' ∉ name.1 := Marker.not_mem_of_isName (by decide) name.2
  simp [opening, unclosed]

def tokens : Nested → List Token
  | done => []
  | text content rest => content.1.map .plain ++ rest.tokens
  | bare name rest => .marker ⟨name.1, none⟩ :: rest.tokens
  | framed name params rest =>
    if params.height = 0 then .marker ⟨name.1, some params.render⟩ :: rest.tokens
    else
      (opening name).map .plain ++ (params.tokens ++ (.plain '}' :: .plain '}' :: rest.tokens))

end Nested

end DocMarkers
