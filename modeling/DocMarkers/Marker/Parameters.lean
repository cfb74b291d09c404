import DocMarkers.Failure
import DocMarkers.Text.Blank
import DocMarkers.Value.Text

set_option autoImplicit false

namespace DocMarkers

inductive SplitMode where
  | everyColon
  | firstColon
  | whole
deriving DecidableEq, Repr

namespace SplitMode

def all : List SplitMode := [everyColon, firstColon, whole]

def label : SplitMode → Text
  | everyColon => "every_colon".toList
  | firstColon => "first_colon".toList
  | whole => "whole".toList

def ofLabel? (label : Text) : Option SplitMode :=
  all.find? fun mode => mode.label == label

def read (value : Value) : Except Failure SplitMode :=
  let mode? := match value with
    | .text label => ofLabel? label
    | _ => none
  mode?.elim (.error (.unknownMode value.quoted)) .ok

def arguments (mode : SplitMode) (raw : Text) : List Text :=
  match mode with
  | whole => [raw]
  | firstColon =>
    match Text.cut ':' raw with
    | (head, none) => [Text.trim head]
    | (head, some tail) => [Text.trim head, Text.trim tail]
  | everyColon => (Text.splitOn ':' raw).map Text.trim

def split (mode : SplitMode) (raw : Option Text) : List Text :=
  match raw with
  | none => []
  | some [] => []
  | some raw => mode.arguments raw

end SplitMode

end DocMarkers
