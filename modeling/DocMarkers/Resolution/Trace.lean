import DocMarkers.Text.Basic

set_option autoImplicit false

namespace DocMarkers

inductive Status where
  | ok
  | error
  | unknown
  | other (label : Text)
deriving DecidableEq, Repr

namespace Status

def label : Status → Text
  | ok => "ok".toList
  | error => "error".toList
  | unknown => "unknown".toList
  | other label => label

def ofLabel (label : Text) : Status :=
  ([ok, error, unknown].find? fun status => status.label == label).getD (other label)

end Status

structure MarkerTrace (τ : Type) where
  name : Text
  params : List Text
  outputPreview : Text
  latency : τ
  status : Status

def previewLength : Nat := 320

def preview (text : Text) : Text := text.take previewLength

end DocMarkers
