import DocMarkers.Api.Message
import DocMarkers.Json.Reader

set_option autoImplicit false

namespace DocMarkers

namespace Api

structure ResolveRequest where
  text : Text
  data : List (Text × Value)

namespace ResolveRequest

def bodyStep : Step := .name "body".toList

def datum? : Value → Option Value
  | .bool b => some (.int (if b then 1 else 0))
  | .int i => some (.int i)
  | .float x => some (.float x)
  | .text t => some (.text t)
  | _ => none

def datumComplaints (name : Text) (value : Value) : List Complaint :=
  let complaint (kind : String) (issue : IssueKind) : Complaint :=
    ⟨⟨[bodyStep, .name "data".toList, .name name, .name kind.toList], issue⟩, value⟩
  [complaint "str" .textKind, complaint "int" .intKind, complaint "float" .floatKind]

def readData : List (Text × Value) → List (Text × Value) × List Complaint
  | [] => ([], [])
  | (name, value) :: rest =>
    let (data, complaints) := readData rest
    match datum? value with
    | some value => ((name, value) :: data, complaints)
    | none => (data, datumComplaints name value ++ complaints)

def ofFields (fields : List (Text × Value)) : Except (List Complaint) ResolveRequest :=
  let text := Field.required fields "text".toList Field.text
  let shown := (Entries.get? fields "text".toList).getD (.object fields)
  let textComplaints := (Field.issues "text".toList text).map fun issue =>
    ⟨{ issue with path := bodyStep :: issue.path }, shown⟩
  let (data, dataComplaints) := match Entries.get? fields "data".toList with
    | none => ([], [])
    | some (.object entries) => readData entries
    | some value => ([], [⟨⟨[bodyStep, .name "data".toList], .objectKind⟩, value⟩])
  match text, dataComplaints with
  | .ok text, [] => .ok { text, data }
  | _, _ => .error (textComplaints ++ dataComplaints)

def ofValue : Value → Except (List Complaint) ResolveRequest
  | .object fields => ofFields fields
  | value => .error [⟨⟨[bodyStep], .recordKind⟩, value⟩]

def read (depth : Nat) (body : Bytes) : Except Answer ResolveRequest :=
  if body.isEmpty then .error (.issues [⟨[bodyStep], .missing⟩])
  else match Json.decode depth body with
    | .error (.malformed position) => .error (.issues [⟨[bodyStep, .index position], .notJson⟩])
    | .error _ => .error .unreadable
    | .ok value => (ofValue value).mapError .ofComplaints

end ResolveRequest

end Api

end DocMarkers
