import DocMarkers.Proofs.Resolution.Records
import DocMarkers.Proofs.Resolution.ReportsTogether
import DocMarkers.Proofs.Service.Actions

set_option autoImplicit false

namespace DocMarkers

variable {τ : Type}

inductive Deed (τ : Type) where
  | process (document : Text) (values : List (Text × Value))
  | act (change : Session τ → Session τ)

def Deed.isProcess : Deed τ → Bool
  | process _ _ => true
  | act _ => false

structure Visit (τ : Type) where
  answer : Except Failure (Outcome τ)
  calls : List HandlerCall

namespace Visit

def traces (visit : Visit τ) : List (MarkerTrace τ) := visit.answer.toOption.elim [] Outcome.traces

def failures {σ : Type} (registry : Registry σ) (visit : Visit τ) : Nat :=
  (visit.traces.countP fun trace => !registry.contains trace.name) +
    visit.calls.countP fun call => !call.result.isOk

/-- A record of a call. It says what the call answered and how that ended, and each of its traces tells
what one dispatch came to. -/
structure Recorded {σ : Type} (registry : Registry σ) (limit : Nat) (visit : Visit τ)
    (record : Record τ) : Prop where
  answered : ∃ outcome, visit.answer = .ok outcome ∧ outcome.id = some record.id ∧
    record.iterations = outcome.iterations ∧ record.endState = outcome.endState.label ∧
    record.traces = outcome.traces ∧ record.unresolved = (Document.markers outcome.text).length
  within : 0 ≤ record.iterations ∧ record.iterations ≤ limit
  fixpoint : record.endState = EndState.fixpoint.label ↔ record.unresolved = 0
  capped : record.endState = EndState.capped.label ↔ record.unresolved ≠ 0
  usedUp : record.endState = EndState.capped.label → record.iterations = limit
  reported : ∃ reports : List (Report τ), (∀ report ∈ reports, report.Tells registry) ∧
    record.traces = reports.map Report.trace ∧ visit.calls = reports.filterMap Report.call

end Visit

theorem Report.failures_eq {σ : Type} {registry : Registry σ} {reports : List (Report τ)}
    (tells : ∀ report ∈ reports, report.Tells registry) :
    RecordStore.failures (reports.map Report.trace) =
      ((reports.map Report.trace).countP fun trace => !registry.contains trace.name) +
        (reports.filterMap Report.call).countP fun call => !call.result.isOk := by
  induction reports with
  | nil => rfl
  | cons report rest ih =>
    obtain ⟨first, others⟩ := List.forall_mem_cons.1 tells
    have later := ih others
    unfold RecordStore.failures at later ⊢
    cases first with
    | unknown unknown told latency =>
      have missing : registry.contains _ = false := congrArg Option.isSome unknown
      simp [missing, later]
      omega
    | failed found failure latency =>
      have present : registry.contains _ = true := congrArg Option.isSome found
      simp [present, later, Except.isOk, Except.toBool]
      omega
    | succeeded found value latency =>
      have present : registry.contains _ = true := congrArg Option.isSome found
      simp [present, later, Except.isOk, Except.toBool]

theorem EndState.label_inj {first second : EndState} :
    first.label = second.label ↔ first = second := by
  cases first <;> cases second <;> decide

namespace Run

variable {σ ω : Type}

def outcome (run : Run σ ω τ) (id : Text) : Outcome τ :=
  ⟨run.text, run.iterations, run.endState, run.traces, some id⟩

structure IsTold (run : Run σ ω τ) (record : Record τ) : Prop where
  iterations : record.iterations = run.iterations
  endState : record.endState = run.endState.label
  traces : record.traces = run.traces
  unresolved : record.unresolved = (Document.markers run.text).length

end Run

namespace Service

variable [Quantity τ]

theorem resolveAt_ends (pace : Pace) (service : Service τ) (document : Text)
    (values : List (Text × Value)) :
    (service.resolveAt pace document values).Ends service.settings.maxIterations := by
  unfold resolveAt
  split
  next =>
    rw [Dispatcher.resolveTogether, Dispatcher.runTogether_eq_runBy]
    exact runBy_ends _ _ _ _ _
  next =>
    rw [Dispatcher.resolve, Dispatcher.run_eq_runBy]
    exact runBy_ends _ _ _ _ _

def callsAt (pace : Pace) (service : Service τ) (document : Text)
    (values : List (Text × Value)) : List HandlerCall :=
  let limit := service.settings.maxIterations
  if service.settings.concurrent then
    (service.dispatcher.noting.resolveTogether
      (Builtin.beginnings service.settings.searchFallback).noting pace limit document values
      (service.session, []) ()).state.2
  else (service.dispatcher.noting.resolve limit document values (service.session, []) ()).state.2

theorem resolveAt_reported (pace : Pace) (service : Service τ) (document : Text)
    (values : List (Text × Value)) :
    ∃ reports : List (Report τ), (∀ report ∈ reports, report.Tells service.registry) ∧
      (service.resolveAt pace document values).traces = reports.map Report.trace ∧
      service.callsAt pace document values = reports.filterMap Report.call := by
  have quiet : service.dispatcher.IsQuiet := fun _ _ => rfl
  unfold resolveAt callsAt
  split
  next =>
    obtain ⟨reports, tells, traces, noted⟩ := service.dispatcher.resolveTogether_reported
      (Builtin.beginnings service.settings.searchFallback) pace service.settings.maxIterations
      document values service.session ()
    exact ⟨reports, tells, traces, congrArg (fun run => run.state.2) noted⟩
  next =>
    obtain ⟨reports, tells, traces, noted⟩ := Dispatcher.resolve_reported quiet
      service.settings.maxIterations document values service.session ()
    exact ⟨reports, tells, traces, congrArg (fun run => run.state.2) noted⟩

theorem recorded_last {service : Service τ} {count : Int}
    (window : service.store.window = .last count)
    (fresh : ∀ record ∈ service.store.records,
      record.id ≠ RecordStore.idOf (service.store.created + 1))
    (document : Text) (run : Run (Session τ) Unit τ) :
    ∃ record : Record τ, record.id = RecordStore.idOf (service.store.created + 1) ∧
      run.IsTold record ∧
      service.recorded document run =
        (if count < 0 then .error .interrupted else .ok (run.outcome record.id),
          { service with
            session := run.state
            store :=
              { service.store with
                records := (service.store.records ++ [record]).rtake count.toNat
                created := service.store.created + 1 } }) := by
  let resolved : Resolved τ :=
    { document
      output := run.text
      iterations := run.iterations
      endState := run.endState.label
      traces := run.traces
      latency := Quantity.elapsed service.session.world.clock run.state.world.clock }
  have created := RecordStore.createAs_last window fresh run.state.world.today resolved
  refine ⟨resolved.record (RecordStore.idOf (service.store.created + 1)) run.state.world.today, rfl,
    ⟨rfl, rfl, rfl, rfl⟩, ?_⟩
  simp only [recorded, RecordStore.create, resolved] at created ⊢
  rw [created]
  by_cases negative : count < 0
  · simp only [negative, if_true]
  · simp only [negative, if_false, Run.outcome]

theorem recorded_of_canKeep {service : Service τ} (canKeep : service.store.window.CanKeep)
    (document : Text) (run : Run (Session τ) Unit τ) :
    ∃ id records, service.recorded document run =
      (.ok (run.outcome id),
        { service with
          session := run.state
          store := { service.store with records, created := service.store.created + 1 } }) := by
  obtain ⟨record, records, created⟩ := RecordStore.create_kept canKeep run.state.world.today
    { document
      output := run.text
      iterations := run.iterations
      endState := run.endState.label
      traces := run.traces
      latency := Quantity.elapsed service.session.world.clock run.state.world.clock }
  refine ⟨record.id, records, ?_⟩
  simp only [recorded, created]
  rfl

theorem recorded_visit (pace : Pace) (service : Service τ) (document : Text)
    (values : List (Text × Value)) {record : Record τ}
    (told : (service.resolveAt pace document values).IsTold record) :
    Visit.Recorded service.registry service.settings.maxIterations
      { answer := .ok ((service.resolveAt pace document values).outcome record.id)
        calls := service.callsAt pace document values } record := by
  have ends := service.resolveAt_ends pace document values
  obtain ⟨reports, tells, traces, called⟩ := service.resolveAt_reported pace document values
  generalize service.resolveAt pace document values = run at *
  have within : 0 ≤ record.iterations ∧ record.iterations ≤ service.settings.maxIterations := by
    have := ends.within
    rw [told.iterations]
    omega
  refine ⟨⟨_, rfl, rfl, told.iterations, told.endState, told.traces, told.unresolved⟩, within, ?_, ?_,
    ?_, reports, tells, told.traces.trans traces, called⟩
  · rw [told.endState, told.unresolved, EndState.label_inj, List.length_eq_zero_iff]
    exact ends.fixpoint
  · rw [told.endState, told.unresolved, EndState.label_inj, Ne, List.length_eq_zero_iff]
    exact ends.capped
  · rw [told.endState, told.iterations, EndState.label_inj]
    exact fun capped => congrArg Int.ofNat (ends.used capped)

def carryOut (pace : Pace) (service : Service τ) : Deed τ → Option (Visit τ) × Service τ
  | .process document values =>
    let (answer, after) := service.processAt pace document values
    (some { answer, calls := service.callsAt pace document values }, after)
  | .act change => service.onSession fun s => (none, change s)

def carryOutAll (paces : Nat → Pace) :
    List (Deed τ) → Service τ → List (Visit τ) × Service τ
  | [], service => ([], service)
  | deed :: rest, service =>
    let (visit, service) := service.carryOut (paces rest.length) deed
    let (visits, service) := carryOutAll paces rest service
    (visit.toList ++ visits, service)

theorem length_carryOutAll (paces : Nat → Pace) (deeds : List (Deed τ)) (service : Service τ) :
    (carryOutAll paces deeds service).1.length = deeds.countP Deed.isProcess := by
  induction deeds generalizing service with
  | nil => rfl
  | cons deed rest ih =>
    rw [carryOutAll, List.length_append, ih, List.countP_cons, Nat.add_comm]
    cases deed <;> rfl

structure HasKept (start : Service τ) (count : Int) (visits : List (Visit τ))
    (service : Service τ) : Prop where
  registry : service.registry = start.registry
  settings : service.settings = start.settings
  window : service.store.window = .last count
  created : service.store.created = visits.length
  answers : visits.map (fun visit => visit.answer.map Outcome.id) =
    (List.range visits.length).map fun index =>
      if count < 0 then .error .interrupted else .ok (some (RecordStore.idOf (index + 1)))
  records : List.Forall₂ (Visit.Recorded start.registry start.settings.maxIterations)
    (visits.rtake count.toNat) service.store.records

namespace HasKept

variable {start service : Service τ} {count : Int} {visits : List (Visit τ)}

omit [Quantity τ] in
theorem fresh (kept : HasKept start count visits service) :
    ∀ record ∈ service.store.records, record.id ≠ RecordStore.idOf (service.store.created + 1) := by
  intro record member same
  obtain ⟨visit, retained, recorded⟩ := exists_of_forall₂ kept.records member
  obtain ⟨outcome, answered, told, -⟩ := recorded.answered
  have listed := List.mem_map_of_mem (f := fun visit => visit.answer.map Outcome.id)
    (List.mem_of_mem_drop retained)
  rw [kept.answers, answered] at listed
  obtain ⟨index, within, answer⟩ := List.mem_map.1 listed
  split at answer
  next => contradiction
  next =>
    simp only [Except.map, told, same, Except.ok.injEq, Option.some.injEq] at answer
    have index_eq := RecordStore.idOf_injective answer
    rw [kept.created] at index_eq
    rw [List.mem_range] at within
    omega

theorem process (kept : HasKept start count visits service) (pace : Pace) (document : Text)
    (values : List (Text × Value)) :
    let processed := service.processAt pace document values
    HasKept start count (visits ++ [⟨processed.1, service.callsAt pace document values⟩])
      processed.2 := by
  obtain ⟨record, id, told, recorded⟩ :=
    recorded_last kept.window kept.fresh document (service.resolveAt pace document values)
  have visited := service.recorded_visit pace document values told
  rw [kept.registry, kept.settings] at visited
  simp only [processAt, recorded]
  refine ⟨kept.registry, kept.settings, kept.window, ?_, ?_, ?_⟩
  · rw [kept.created, List.length_append, List.length_singleton]
  · rw [List.map_append, kept.answers, List.length_append, List.length_singleton, List.range_succ,
      List.map_append, List.map_singleton, List.map_singleton, ← kept.created, ← id]
    split <;> rfl
  · by_cases negative : count < 0
    · have nothing : count.toNat = 0 := by omega
      rw [nothing, List.rtake_zero, List.rtake_zero]
      exact .nil
    · simp only [negative, if_false]
      have appended := forall₂_rtake (List.rel_append kept.records (.cons visited .nil)) count.toNat
      rwa [rtake_rtake_append] at appended

theorem carryOut (kept : HasKept start count visits service) (pace : Pace) (deed : Deed τ) :
    HasKept start count (visits ++ (service.carryOut pace deed).1.toList)
      (service.carryOut pace deed).2 := by
  cases deed with
  | process document values => exact kept.process pace document values
  | act change =>
    simp only [Service.carryOut, onSession, Option.toList_none, List.append_nil]
    exact ⟨kept.registry, kept.settings, kept.window, kept.created, kept.answers, kept.records⟩

theorem carryOutAll (kept : HasKept start count visits service) (paces : Nat → Pace)
    (deeds : List (Deed τ)) :
    HasKept start count (visits ++ (Service.carryOutAll paces deeds service).1)
      (Service.carryOutAll paces deeds service).2 := by
  induction deeds generalizing visits service with
  | nil =>
    rw [Service.carryOutAll, List.append_nil]
    exact kept
  | cons deed rest ih =>
    have next := ih (kept.carryOut (paces rest.length) deed)
    rw [List.append_assoc] at next
    exact next

omit [Quantity τ] in
theorem isOk_answer (kept : HasKept start count visits service) {visit : Visit τ}
    (member : visit ∈ visits) : visit.answer.isOk ↔ 0 ≤ count := by
  have told := List.mem_map_of_mem (f := fun visit => visit.answer.map Outcome.id) member
  rw [kept.answers] at told
  obtain ⟨index, -, answer⟩ := List.mem_map.1 told
  cases answered : visit.answer with
  | ok outcome =>
    rw [answered] at answer
    split at answer
    next => contradiction
    next nonnegative => simp [Except.isOk, Except.toBool, Int.not_lt.1 nonnegative]
  | error failure =>
    rw [answered] at answer
    split at answer
    next negative => simp [Except.isOk, Except.toBool, negative]
    next => contradiction

omit [Quantity τ] in
theorem nodup_ids (kept : HasKept start count visits service) (nonnegative : 0 ≤ count) :
    (visits.map fun visit => visit.answer.map Outcome.id).Nodup := by
  rw [kept.answers]
  refine List.Pairwise.map _ (fun first second apart same => apart ?_) List.nodup_range
  rw [if_neg (Int.not_lt.2 nonnegative), if_neg (Int.not_lt.2 nonnegative)] at same
  exact Nat.succ.inj (RecordStore.idOf_injective (Option.some.inj (Except.ok.inj same)))

end HasKept

end Service

theorem Visit.Recorded.failures_eq {σ : Type} {registry : Registry σ} {limit : Nat}
    {visit : Visit τ} {record : Record τ} (recorded : visit.Recorded registry limit record) :
    RecordStore.failures record.traces = visit.failures registry := by
  obtain ⟨outcome, answer, -, -, -, traces, -⟩ := recorded.answered
  obtain ⟨reports, tells, told, called⟩ := recorded.reported
  have same : visit.traces = record.traces := by
    rw [Visit.traces, answer, traces]
    rfl
  rw [Visit.failures, same, told, called]
  exact Report.failures_eq tells

theorem Visit.forall₂_recorded {σ : Type} {registry : Registry σ} {limit : Nat}
    {visits : List (Visit τ)} {records : List (Record τ)}
    (recorded : List.Forall₂ (Visit.Recorded registry limit) visits records) :
    (∀ record ∈ records, 0 ≤ record.iterations ∧ record.iterations ≤ limit) ∧
      (records.countP fun record => record.endState == EndState.capped.label) =
        records.countP (fun record => 0 < record.unresolved) ∧
      (records.map fun record => RecordStore.failures record.traces).sum =
        (visits.map (Visit.failures registry)).sum := by
  induction recorded with
  | nil => exact ⟨nofun, rfl, rfl⟩
  | @cons visit record visits records here _ ih =>
    obtain ⟨within, capped, failures⟩ := ih
    refine ⟨List.forall_mem_cons.2 ⟨here.within, within⟩, ?_, ?_⟩
    · have same : (record.endState == EndState.capped.label) = decide (0 < record.unresolved) := by
        rw [Bool.eq_iff_iff, beq_iff_eq, decide_eq_true_iff, here.capped]
        exact Nat.pos_iff_ne_zero.symm
      rw [List.countP_cons, List.countP_cons, capped, same]
    · rw [List.map_cons, List.map_cons, List.sum_cons, List.sum_cons, failures, here.failures_eq]

end DocMarkers
