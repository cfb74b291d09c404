import DocMarkers.Document
import DocMarkers.Failure
import DocMarkers.Quantity
import DocMarkers.Resolution.Trace
import DocMarkers.Sorting
import DocMarkers.Value.Basic

set_option autoImplicit false

namespace DocMarkers

structure Record (ν : Type) where
  id : Text
  timestamp : Text
  inputPreview : Text
  outputPreview : Text
  iterations : Int
  endState : Text
  traces : List (MarkerTrace ν)
  unresolved : Nat
  latency : ν

structure Resolved (ν : Type) where
  document : Text
  output : Text
  iterations : Int
  endState : Text
  traces : List (MarkerTrace ν)
  latency : ν

inductive Window where
  | last (count : Int)
  | everything
  -- No number but a value of another kind, with which nothing can be compared.
  | incomparable (kind : Text)
deriving DecidableEq, Repr

def Window.isExceeded (window : Window) (size : Nat) : Except Failure Bool :=
  match window with
  | last count => .ok (count < size)
  | everything => .ok false
  | incomparable kind => .error (.incomparable kind)

def Window.keep {α : Type} (window : Window) (records : List α) : Except Failure Unit × List α :=
  match window.isExceeded records.length, records with
  | .error failure, _ => (.error failure, records)
  | .ok false, _ => (.ok (), records)
  | .ok true, [] => (.error .noRecordLeft, [])
  | .ok true, _ :: rest => window.keep rest

def Window.ofValue : Value → Window
  | .int i => last i
  | .bool b => last (if b then 1 else 0)
  | .float x =>
    match Binary64.floor? x with
    | some count => last count
    | none => if x < 0.0 then last (-1) else everything
  | .null => incomparable "NoneType".toList
  | .text _ => incomparable "str".toList
  | .list _ => incomparable "list".toList
  | .object _ => incomparable "dict".toList

def Resolved.record {ν : Type} (resolved : Resolved ν) (id timestamp : Text) : Record ν where
  id
  timestamp
  inputPreview := preview resolved.document
  outputPreview := preview resolved.output
  iterations := resolved.iterations
  endState := resolved.endState
  traces := resolved.traces
  unresolved := (Document.markers resolved.output).length
  latency := resolved.latency

structure RecordStore (ν : Type) where
  records : List (Record ν) := []
  window : Window := .last 1000
  created : Nat := 0

structure Metrics (ν : Type) where
  totalRequests : Nat
  averageLatency : ν
  latency95 : ν
  averageIterations : ν
  totalMarkers : Nat
  failedMarkers : Nat
  cappedRequests : Nat

namespace RecordStore

variable {ν : Type}

-- Identifiers number the records in the order of their creation.
def idOf (number : Nat) : Text := "trace-".toList ++ Text.ofNat number

-- A record takes the place of the one with its identifier. If there is none, it comes last.
def place (record : Record ν) : List (Record ν) → List (Record ν)
  | [] => [record]
  | other :: rest => if other.id == record.id then record :: rest else other :: place record rest

def createAs (store : RecordStore ν) (id timestamp : Text) (resolved : Resolved ν) :
    Except Failure (Record ν) × RecordStore ν :=
  let record := resolved.record id timestamp
  let (kept, records) := store.window.keep (place record store.records)
  (kept.map fun () => record, { store with records, created := store.created + 1 })

def create (store : RecordStore ν) (timestamp : Text) (resolved : Resolved ν) :
    Except Failure (Record ν) × RecordStore ν :=
  store.createAs (idOf (store.created + 1)) timestamp resolved

def get (store : RecordStore ν) (id : Text) : Except Failure (Record ν) :=
  match store.records.find? fun record => record.id == id with
  | some record => .ok record
  | none => .error (.unknownTrace id)

def listLength : Int := 20

-- The number of records that a value asks for. A double asks for none, or for nothing that can be
-- counted.
def limitOf : Value → Except Failure Int
  | .int i => .ok i
  | .bool b => .ok (if b then 1 else 0)
  | .float x => if x ≤ 0.0 then .ok 0 else .error .wrongKind
  | _ => .error .wrongKind

def recent (store : RecordStore ν) (limit : Int) : List (Record ν) :=
  if limit ≤ 0 then [] else store.records.drop (store.records.length - limit.toNat)

variable [Quantity ν]

def total (values : List ν) : Except Failure ν := values.foldlM Quantity.plus Quantity.zero

def average (values : List ν) : Except Failure ν :=
  if values.isEmpty then .ok Quantity.noShare
  else (total values).bind fun sum => Quantity.share sum values.length

def averageInt (values : List Int) : Except Failure ν :=
  if values.isEmpty then .ok Quantity.noShare
  else Quantity.ratio (values.foldl (· + ·) 0) values.length

-- The place of the 95th percentile among so many sorted values.
def place95 (count : Nat) : Nat := 19 * count / 20 - 1

def failures (traces : List (MarkerTrace ν)) : Nat :=
  traces.countP fun trace => trace.status != .ok

def summary (store : RecordStore ν) : Except Failure (Metrics ν) := do
  let latencies := Sorting.sort Quantity.lt (store.records.map Record.latency)
  let traces := store.records.flatMap Record.traces
  let averageLatency ← average latencies
  let averageIterations ← averageInt (store.records.map Record.iterations)
  return {
    totalRequests := store.records.length
    averageLatency
    latency95 := latencies.getD (place95 latencies.length) Quantity.noShare
    averageIterations
    totalMarkers := traces.length
    failedMarkers := failures traces
    cappedRequests := store.records.countP fun record => record.endState == "capped".toList }

end RecordStore

structure Stopwatch (τ : Type) where
  startedAt : Option τ
  elapsed : τ

namespace Stopwatch

variable {τ : Type} [Quantity τ]

def fresh : Stopwatch τ := ⟨none, Quantity.zero⟩

def start (watch : Stopwatch τ) (now : τ) : Stopwatch τ := { watch with startedAt := some now }

def stop (watch : Stopwatch τ) (now : τ) : Stopwatch τ :=
  match watch.startedAt with
  | none => watch
  | some start => { watch with elapsed := Quantity.elapsed start now }

end Stopwatch

end DocMarkers
