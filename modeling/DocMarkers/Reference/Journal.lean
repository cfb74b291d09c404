import DocMarkers.Reference.Lookup

set_option autoImplicit false

namespace DocMarkers

variable {τ : Type} [Quantity τ]

namespace Lookup

inductive Operation (τ : Type) where
  | summary (topic : Text)
  | fact (topic : Text)
  | description (topic : Text)
  | factOrSearch (topic : Text)
  | search (query : Text) (limit : Value)
  | clearCache
  | wait (seconds : τ)

def perform (s : Session τ) : Operation τ → Session τ
  | .summary topic => (summary topic s).2
  | .fact topic => (fact topic s).2
  | .description topic => (description topic s).2
  | .factOrSearch topic => (factOrSearch topic s).2
  | .search query limit => (search query limit s).2
  | .clearCache => clearCache s
  | .wait seconds => { s with world := s.world.wait seconds }

def performAll (operations : List (Operation τ)) (s : Session τ) : Session τ :=
  operations.foldl perform s

structure Arrival (τ : Type) where
  title : Text
  time : τ
  summary : Summary

def arrival? (topic : Text) (s : Session τ) : Option (Arrival τ) :=
  match summary topic s with
  | (.ok summary, next) =>
    if s.world.requests.length < next.world.requests.length && !summary.isDegraded then
      some ⟨Topic.normalize topic, next.world.clock, summary⟩
    else none
  | (.error _, _) => none

/-- A topic whose summary is asked for, and in which session. The arrivals are those since the cache was
last cleared, the latest first. -/
structure Inquiry (τ : Type) where
  topic : Text
  session : Session τ
  arrivals : List (Arrival τ)

structure Journal (τ : Type) where
  session : Session τ
  arrivals : List (Arrival τ) := []
  inquiries : List (Inquiry τ) := []

namespace Journal

def summary (topic : Text) (j : Journal τ) : Except Failure Summary × Journal τ :=
  let (result, session) := Lookup.summary topic j.session
  (result,
   { session
     arrivals := (arrival? topic j.session).toList ++ j.arrivals
     inquiries := ⟨topic, j.session, j.arrivals⟩ :: j.inquiries })

def search (query : Text) (limit : Value) (j : Journal τ) :
    Except Failure (List SearchHit) × Journal τ :=
  let (result, session) := Lookup.search query limit j.session
  (result, { j with session })

def factOrSearch (topic : Text) (j : Journal τ) : Except Failure Value × Journal τ :=
  factOrSearchBy summary search topic j

def clearCache (j : Journal τ) : Journal τ :=
  { j with session := Lookup.clearCache j.session, arrivals := [] }

def wait (seconds : τ) (j : Journal τ) : Journal τ :=
  { j with session := { j.session with world := j.session.world.wait seconds } }

def note (j : Journal τ) : Operation τ → Journal τ
  | .summary topic => (j.summary topic).2
  | .fact topic => (j.summary topic).2
  | .description topic => (j.summary topic).2
  | .factOrSearch topic => (j.factOrSearch topic).2
  | .search query limit => (j.search query limit).2
  | .clearCache => j.clearCache
  | .wait seconds => j.wait seconds

def noteAll (operations : List (Operation τ)) (j : Journal τ) : Journal τ :=
  operations.foldl note j

end Journal

end Lookup

end DocMarkers
