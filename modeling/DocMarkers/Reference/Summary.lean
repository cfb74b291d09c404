import DocMarkers.Failure
import DocMarkers.Reference.Markup
import DocMarkers.Value.Basic

set_option autoImplicit false

namespace DocMarkers

structure Summary where
  title : Value
  description : Value
  extract : Value
  shortExtract : Value
  thumbnailUrl : Value
  canonicalUrl : Value
  timestamp : Value
  isDegraded : Bool := false

structure SearchHit where
  title : Value
  description : Value
  url : Value

namespace Value

def part (value : Value) (name : Text) : Except Failure Value :=
  match value with
  | object fields => .ok (field fields name)
  | _ => .error .noSuchPart

def elements : Value → Except Failure (List Value)
  | list items => .ok items
  | text t => .ok (t.map fun c => text [c])
  | object fields => .ok (fields.map fun field => text field.1)
  | _ => .error .wrongKind

def elementAt (value : Value) (index : Nat) : Except Failure Value :=
  match value with
  | list items => .ok (items.getD index (text []))
  | text t => .ok ((t[index]?).elim (text []) fun c => text [c])
  | object fields =>
    if index < fields.length then .error (.missingKey (Text.ofNat index)) else .ok (text [])
  | _ => .error .wrongKind

end Value

namespace Summary

def degraded (topic today : Text) : Summary where
  title := .text topic
  description := .text []
  extract := .text ("Unable to fetch information about ".toList ++ topic)
  shortExtract := .text []
  thumbnailUrl := .null
  canonicalUrl := .null
  timestamp := .text today
  isDegraded := true

def shortLength : Nat := 200

def shorten (extract markedUp : Value) : Except Failure Value :=
  if markedUp.isPresent then
    match extract with
    | .text extract => .ok (.text ((Markup.stripTags extract).take shortLength))
    | _ => .error .wrongKind
  else .ok (.text [])

def ofFields (fields : List (Text × Value)) (topic today : Text) : Except Failure Summary := do
  let value (name : String) : Value := Value.field fields name.toList
  let extract := (value "extract").orElse (.text [])
  let thumbnail := (value "thumbnail").orElse (.object [])
  let desktop ← ((value "content_urls").orElse (.object [])).part "desktop".toList
  let desktop := desktop.orElse (.object [])
  let shortExtract ← shorten extract (value "extract_html")
  let thumbnailUrl ← thumbnail.part "source".toList
  let canonicalUrl ← desktop.part "page".toList
  return {
    title := (value "title").orElse (.text topic)
    description := (value "description").orElse (.text [])
    extract
    shortExtract
    thumbnailUrl
    canonicalUrl
    timestamp := (value "timestamp").orElse (.text today) }

end Summary

namespace SearchHit

-- Hits in the order of their titles; descriptions and addresses may be fewer.
def ofColumnsFrom (descriptions urls : Value) : Nat → List Value → Except Failure (List SearchHit)
  | _, [] => .ok []
  | index, title :: titles => do
    let description ← descriptions.elementAt index
    let url ← urls.elementAt index
    let hits ← ofColumnsFrom descriptions urls (index + 1) titles
    return ⟨title, description, url⟩ :: hits

def ofResult (items : List Value) : Except Failure (List SearchHit) := do
  let column (index : Nat) : Value := items.getD index (.list [])
  ofColumnsFrom (column 2) (column 3) 0 (← (column 1).elements)

end SearchHit

end DocMarkers
