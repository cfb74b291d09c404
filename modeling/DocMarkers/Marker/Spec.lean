import DocMarkers.Failure
import DocMarkers.Marker.Basic
import DocMarkers.Marker.Parameters
import DocMarkers.Settings.Basic
import DocMarkers.Value.Text

set_option autoImplicit false

namespace DocMarkers

/-- A handler turns arguments into a value and changes the state that it acts on, also where it
fails. A value that cannot be written as a text counts as a failure. -/
abbrev Handler (σ : Type) := List Text → σ → Except Raised Value × σ

def telling {α σ : Type} (act : σ → Except Failure α × σ) (state : σ) : Except Raised α × σ :=
  let (result, state) := act state
  (result.mapError .told, state)

structure MarkerSpec (σ : Type) where
  name : Text
  description : Text
  handler : Handler σ
  splitMode : SplitMode := .everyColon
  usage : Text := []
  tags : List Text := []
  isName : Marker.isName name = true := by decide

namespace MarkerSpec

variable {σ : Type}

def invoke (spec : MarkerSpec σ) (arguments : List Text) (state : σ) : Except Raised Text × σ :=
  match spec.handler arguments state with
  | (.ok value, state) => (.ok value.render, state)
  | (.error raised, state) => (.error raised, state)

def toFields (spec : MarkerSpec σ) : List (Text × Value) :=
  [("name".toList, .text spec.name), ("description".toList, .text spec.description),
    ("usage".toList, .text spec.usage), ("split_mode".toList, .text spec.splitMode.label),
    ("tags".toList, .list (spec.tags.map .text))]

def readName (value : Value) : Field.Read { name : Text // Marker.isName name = true } :=
  match Field.text value with
  | .error kind => .error kind
  | .ok name => if h : Marker.isName name = true then .ok ⟨name, h⟩ else .error .pattern

def readMode (value : Value) : Field.Read SplitMode :=
  match value with
  | .text label => (SplitMode.ofLabel? label).elim (.error .choice) .ok
  | _ => .error .choice

def tagIssues : Nat → List Value → List Issue
  | _, [] => []
  | index, .text _ :: rest => tagIssues (index + 1) rest
  | index, _ :: rest =>
    ⟨[.name "tags".toList, .index index], .textKind⟩ :: tagIssues (index + 1) rest

def readTags (value : Option Value) : Checked (List Text) :=
  match value with
  | none => .ok []
  | some (.list items) =>
    match tagIssues 0 items with
    | [] => .ok (items.map Value.render)
    | issues => .error issues
  | some _ => .error [⟨[.name "tags".toList], .listKind⟩]

def read (fields : List (Text × Value)) (handler : Option (Handler σ)) :
    Checked (MarkerSpec σ) :=
  let name := Field.required fields "name".toList readName
  let description := Field.required fields "description".toList Field.text
  let handler : Field.Read (Handler σ) :=
    Field.required fields "handler".toList fun _ => handler.elim (.error .handlerKind) .ok
  let mode := Field.withDefault fields "split_mode".toList .everyColon readMode
  let usage := Field.withDefault fields "usage".toList [] Field.text
  let tags := readTags (Entries.get? fields "tags".toList)
  match name, description, handler, mode, usage, tags with
  | .ok name, .ok description, .ok handler, .ok splitMode, .ok usage, .ok tags =>
    .ok { name := name.1, description, handler, splitMode, usage, tags, isName := name.2 }
  | _, _, _, _, _, _ =>
    .error (Field.issues "name".toList name ++ Field.issues "description".toList description ++
      Field.issues "handler".toList handler ++ Field.issues "split_mode".toList mode ++
      Field.issues "usage".toList usage ++
      match tags with
      | .ok _ => []
      | .error issues => issues)

end MarkerSpec

end DocMarkers
