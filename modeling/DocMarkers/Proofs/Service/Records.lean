import DocMarkers.Api.Endpoint
import DocMarkers.Proofs.Service.Visits

set_option autoImplicit false

namespace DocMarkers

namespace Api

def receiveAll : List (Text × Text × Bytes) → Service Float → List Answer × Service Float
  | [], service => ([], service)
  | (method, target, body) :: rest, service =>
    let (answer, service) := receive service method target body
    let (answers, service) := receiveAll rest service
    (answer :: answers, service)

theorem ofComplaints_ne_detail (complaints : List Complaint) (status : Nat) (text : Text) :
    Answer.ofComplaints complaints ≠ .detail status text := by
  unfold Answer.ofComplaints
  split <;> exact nofun

theorem read_ne_detail {depth : Nat} {body : Bytes} {answer : Answer}
    (refused : ResolveRequest.read depth body = .error answer) (text : Text) :
    answer ≠ .detail 500 text := by
  unfold ResolveRequest.read at refused
  split at refused
  next =>
    cases refused
    exact nofun
  next =>
    split at refused
    next =>
      cases refused
      exact nofun
    next =>
      cases refused
      exact nofun
    next value _ =>
      cases read : ResolveRequest.ofValue value with
      | ok request =>
        rw [read] at refused
        contradiction
      | error complaints =>
        rw [read] at refused
        cases refused
        exact ofComplaints_ne_detail complaints 500 text

theorem resolve_keeps {service : Service Float} {count : Int}
    (window : service.store.window = .last count) (nonnegative : 0 ≤ count) (body : Bytes) :
    (∀ text, (resolve service body).1 ≠ .detail 500 text) ∧
      (resolve service body).2.store.window = .last count := by
  unfold resolve
  split
  next answer refused => exact ⟨read_ne_detail refused, window⟩
  next request _ =>
    have canKeep : service.store.window.CanKeep := by rwa [window]
    obtain ⟨id, records, recorded⟩ := Service.recorded_of_canKeep canKeep request.text
      (service.resolveAt (fun _ _ => 0) request.text request.data)
    have processed : service.process request.text request.data = _ := recorded
    rw [processed]
    exact ⟨nofun, window⟩

theorem traces_ne_detail (service : Service Float) (message : Message) (text : Text) :
    traces service message ≠ .detail 500 text := by
  unfold traces
  dsimp only
  split <;> exact nofun

theorem traceOf_ne_detail (service : Service Float) (id text : Text) :
    traceOf service id ≠ .detail 500 text := by
  unfold traceOf
  split <;> exact nofun

theorem metrics_ne_detail (service : Service Float) (text : Text) :
    metrics service ≠ .detail 500 text := by
  unfold metrics
  split <;> exact nofun

theorem receive_keeps {service : Service Float} {count : Int}
    (window : service.store.window = .last count) (nonnegative : 0 ≤ count)
    (method target : Text) (body : Bytes) :
    (∀ text, (receive service method target body).1 ≠ .detail 500 text) ∧
      (receive service method target body).2.store.window = .last count := by
  unfold receive
  split
  next => exact ⟨nofun, window⟩
  next message _ =>
    unfold respond
    split
    next => exact ⟨nofun, window⟩
    next endpoint _ =>
      split
      next =>
        cases endpoint with
        | resolve => exact resolve_keeps window nonnegative message.body
        | traces => exact ⟨traces_ne_detail service message, window⟩
        | trace id => exact ⟨traceOf_ne_detail service id, window⟩
        | metrics => exact ⟨metrics_ne_detail service, window⟩
        | _ => exact ⟨nofun, window⟩
      next => exact ⟨nofun, window⟩

theorem receiveAll_keeps {service : Service Float} {count : Int}
    (window : service.store.window = .last count) (nonnegative : 0 ≤ count)
    (messages : List (Text × Text × Bytes)) :
    ∀ answer ∈ (receiveAll messages service).1, ∀ text, answer ≠ .detail 500 text := by
  induction messages generalizing service with
  | nil => exact nofun
  | cons message rest ih =>
    obtain ⟨method, target, body⟩ := message
    obtain ⟨answered, kept⟩ := receive_keeps window nonnegative method target body
    exact List.forall_mem_cons.2 ⟨answered, ih kept⟩

end Api

namespace Service

/-- Of a service that keeps so many records, if that is not a negative number, each call to resolve a
document is answered and recorded under a number of its own, and the last records are kept. They say how
the answers came about, and the summary counts those that are left unresolved, their traces, and the
dispatches that found no handler or failed. Over HTTP no request is answered by a fault. -/
theorem records_agree {τ : Type} [Quantity τ] (session : Session τ)
    (settings : ResolutionSettings) (count : Int) (paces : Nat → Pace) (deeds : List (Deed τ)) :
    let start := create session settings { window := .last count }
    let visits := (carryOutAll paces deeds start).1
    let service := (carryOutAll paces deeds start).2
    let retained := visits.rtake count.toNat
    (visits.length = deeds.countP Deed.isProcess ∧ service.store.created = visits.length) ∧
      (∀ visit ∈ visits, visit.answer.isOk ↔ 0 ≤ count) ∧
      (0 ≤ count → (visits.map fun visit => visit.answer.map Outcome.id).Nodup) ∧
      List.Forall₂ (Visit.Recorded start.registry settings.maxIterations) retained
        service.store.records ∧
      (∀ metrics, service.store.summary = .ok metrics →
        metrics.cappedRequests =
            service.store.records.countP (fun record => 0 < record.unresolved) ∧
          metrics.totalMarkers =
            (service.store.records.map fun record => record.traces.length).sum ∧
          metrics.failedMarkers = (retained.map (Visit.failures start.registry)).sum) ∧
      (Quantity.Averages τ settings.maxIterations →
        ∃ metrics, service.store.summary = .ok metrics) ∧
      ∀ served : Service Float, served.store.window = .last count → 0 ≤ count →
        ∀ messages, ∀ answer ∈ (Api.receiveAll messages served).1, ∀ text,
          answer ≠ .detail 500 text := by
  intro start visits service retained
  have none : HasKept start count [] start :=
    ⟨rfl, rfl, rfl, rfl, rfl, by rw [List.rtake_nil]; exact .nil⟩
  have kept : HasKept start count visits service := none.carryOutAll paces deeds
  obtain ⟨within, capped, failures⟩ := Visit.forall₂_recorded kept.records
  refine ⟨⟨length_carryOutAll paces deeds start, kept.created⟩, fun visit => kept.isOk_answer,
    kept.nodup_ids, kept.records, fun metrics told => ?_, fun averages =>
      RecordStore.exists_summary averages within, fun served window nonnegative messages =>
        Api.receiveAll_keeps window nonnegative messages⟩
  obtain ⟨total, failed, counted⟩ := RecordStore.summary_counts told
  exact ⟨counted.trans capped, total, failed.trans failures⟩

def unhelpful {τ : Type} [Quantity τ] : Session τ where
  world :=
    { clock := Quantity.zero
      today := []
      server := fun _ _ => ⟨.ok ⟨404, []⟩, Quantity.zero⟩
      loader := fun _ _ => some .modelGone
      model := fun _ _ => ⟨.error (.told .modelGone), Quantity.zero⟩ }
  client :=
    { settings :=
        { baseUrl := "https://a.b".toList, searchUrl := [], pageBaseUrl := "https://a.b".toList
          lifetime := Quantity.zero, timeout := Quantity.zero, userAgent := [] } }

def patient : ResolutionSettings where
  maxIterations := 3
  concurrent := false
  searchFallback := false

-- In the second document one marker is unknown and the other lacks its topic.
def visiting : List (Deed Rat) :=
  [.process "\x7b\x7bai_link:Cats\x7d\x7d".toList [], .act Lookup.clearCache,
    .process "\x7b\x7bai_none\x7d\x7d, \x7b\x7bai_link\x7d\x7d".toList []]

-- Only the second record is kept. All of its iterations fail at both markers.
theorem records_agree_after_failures :
    let kept := carryOutAll (fun _ _ _ => 0) visiting
      (create unhelpful patient { window := .last 1 })
    let served : Service Float := create unhelpful patient { window := .last 1 }
    (0 : Int) ≤ 1 ∧ Quantity.Averages Rat 3 ∧ (∀ visit ∈ kept.1, visit.answer.isOk) ∧
      (kept.1.map fun visit => visit.answer.map Outcome.id).Nodup ∧
      (∃ metrics, kept.2.store.summary = .ok metrics ∧
        (metrics.cappedRequests, metrics.totalMarkers, metrics.failedMarkers) = (1, 6, 6)) ∧
      served.store.window = .last 1 ∧
      ∀ messages, ∀ answer ∈ (Api.receiveAll messages served).1, ∀ text,
        answer ≠ .detail 500 text := by
  intro kept served
  have averages := Quantity.averages_rat 3
  obtain ⟨-, answered, once, -, counts, told, unfailing⟩ :=
    records_agree unhelpful patient 1 (fun _ _ _ => 0) visiting
  obtain ⟨metrics, summary⟩ := told averages
  obtain ⟨capped, total, failed⟩ := counts metrics summary
  refine ⟨by decide, averages, fun visit member => (answered visit member).2 (by decide),
    once (by decide), ⟨metrics, summary, ?_⟩, rfl, unfailing served rfl (by decide)⟩
  rw [capped, total, failed]
  decide +kernel

-- The oldest records go until no more than -1 are left, which fails when none is left.
theorem unanswered_for_negative_window :
    let start : Service Rat := create unhelpful patient { window := .last (-1) }
    (start.process "a".toList []).1 = .error .interrupted ∧
      (start.process "a".toList []).2.store.records = [] :=
  ⟨rfl, rfl⟩

end Service

end DocMarkers
