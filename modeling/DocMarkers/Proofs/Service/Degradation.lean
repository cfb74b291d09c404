import DocMarkers.Proofs.Service.Actions

set_option autoImplicit false

namespace DocMarkers

variable {τ : Type} [Quantity τ]

/-- The same traces or, where markers are dispatched together, the same but for their order and
latencies. -/
def MarkerTrace.Agree (together : Bool) (traces others : List (MarkerTrace τ)) : Prop :=
  if together then Alike traces others else traces = others

theorem MarkerTrace.agree_refl (together : Bool) (traces : List (MarkerTrace τ)) :
    Agree together traces traces := by
  cases together with
  | true => exact List.Perm.refl _
  | false => rfl

theorem MarkerTrace.Agree.of_common {together : Bool} {traces others common : List (MarkerTrace τ)}
    (agree : Agree together traces common) (agree' : Agree together others common) :
    Agree together traces others := by
  cases together with
  | true =>
    have alike : Alike traces common := agree
    exact alike.trans (List.Perm.symm agree')
  | false =>
    have same : traces = common := agree
    exact same.trans (Eq.symm agree')

inductive Outcome.Agree (together : Bool) :
    Except Failure (Outcome τ) → Except Failure (Outcome τ) → Prop
  | failed (failure : Failure) : Agree together (.error failure) (.error failure)
  | resolved (outcome : Outcome τ) {others : List (MarkerTrace τ)}
      (agree : MarkerTrace.Agree together outcome.traces others) :
    Agree together (.ok outcome) (.ok { outcome with traces := others })

inductive Record.Agree (together : Bool) : Record τ → Record τ → Prop
  | mk (record : Record τ) {others : List (MarkerTrace τ)}
      (agree : MarkerTrace.Agree together record.traces others) :
    Agree together record { record with traces := others }

namespace RecordStore

structure Agree (together : Bool) (store other : RecordStore τ) : Prop where
  window : store.window = other.window
  created : store.created = other.created
  records : List.Forall₂ (Record.Agree together) store.records other.records

variable {together : Bool} {store other : RecordStore τ}

theorem agree_refl (together : Bool) (store : RecordStore τ) : Agree together store store :=
  ⟨rfl, rfl, List.forall₂_same.2 fun record _ => .mk record (MarkerTrace.agree_refl _ _)⟩

theorem keep_agree (window : Window) {records others : List (Record τ)}
    (agree : List.Forall₂ (Record.Agree together) records others) :
    (window.keep records).1 = (window.keep others).1 ∧
      List.Forall₂ (Record.Agree together) (window.keep records).2 (window.keep others).2 := by
  induction agree with
  | nil =>
    refine ⟨rfl, ?_⟩
    unfold Window.keep
    split <;> simp_all
  | @cons record other records others here rest ih =>
    have same : (record :: records).length = (other :: others).length :=
      (List.Forall₂.cons here rest).length_eq
    unfold Window.keep
    rw [same]
    cases window.isExceeded (other :: others).length with
    | error failure => exact ⟨rfl, .cons here rest⟩
    | ok more =>
      cases more with
      | false => exact ⟨rfl, .cons here rest⟩
      | true => exact ih

theorem place_agree {record other : Record τ} (here : Record.Agree together record other)
    {records others : List (Record τ)}
    (agree : List.Forall₂ (Record.Agree together) records others) :
    List.Forall₂ (Record.Agree together) (place record records) (place other others) := by
  have id : record.id = other.id := by cases here; rfl
  induction agree with
  | nil => exact .cons here .nil
  | @cons first first' records others same rest ih =>
    have id' : first.id = first'.id := by cases same; rfl
    rw [place, place, id, id']
    split
    next => exact .cons here rest
    next => exact .cons same ih

theorem Agree.create (agree : Agree together store other) (timestamp : Text)
    (resolved : Resolved τ) {others : List (MarkerTrace τ)}
    (traces : MarkerTrace.Agree together resolved.traces others) :
    (store.create timestamp resolved).1.map Record.id =
        (other.create timestamp { resolved with traces := others }).1.map Record.id ∧
      Agree together (store.create timestamp resolved).2
        (other.create timestamp { resolved with traces := others }).2 := by
  obtain ⟨window, created, records⟩ := agree
  let id := idOf (store.created + 1)
  obtain ⟨kept, rest⟩ := keep_agree store.window
    (place_agree (.mk (resolved.record id timestamp) traces) records)
  simp only [RecordStore.create, createAs, ← window, ← created]
  refine ⟨?_, rfl, rfl, rest⟩
  have same : ({ resolved with traces := others }.record id timestamp : Record τ) =
      { resolved.record id timestamp with traces := others } := rfl
  rw [same, kept]
  cases (store.window.keep (place _ other.records)).1 <;> rfl

end RecordStore

namespace Service

structure IsUnaided (service : Service τ) : Prop where
  registry : service.registry = ⟨Builtin.specs service.settings.searchFallback⟩
  useless : service.session.IsUseless

theorem IsUnaided.waitsUnseen {service : Service τ} (unaided : service.IsUnaided) :
    service.dispatcher.WaitsUnseen (Builtin.beginnings service.settings.searchFallback)
      Session.withoutModel Session.IsUseless := by
  refine ⟨begunBy unaided.registry, fun spec member arguments => ?_⟩
  simp only [dispatcher, unaided.registry] at member
  obtain ⟨act, -, begins⟩ := Builtin.begins_specs _ member arguments
  exact begins.unseen

theorem IsUnaided.resolve {service : Service τ} (unaided : service.IsUnaided) {together : Bool}
    (document : Text) (values : List (Text × Value)) :
    Dispatcher.RunsAgree (MarkerTrace.Agree together) Session.withoutModel Session.IsUseless
      (service.dispatcher.resolve service.settings.maxIterations document values service.session ())
      (service.dispatcher.resolve service.settings.maxIterations document values
        service.session.withoutModel ()) := by
  have ignores := unaided.waitsUnseen.ignoresView fun _ => rfl
  obtain ⟨same, known⟩ := ignores.run unaided.useless service.settings.maxIterations
    (Document.substitute document (values.map fun entry => (entry.1, entry.2.render))) ()
  rw [Dispatcher.resolve, Dispatcher.resolve, same]
  exact ⟨rfl, rfl, rfl, MarkerTrace.agree_refl _ _, rfl, known⟩

/-- Whether traces keep their order: markers are not dispatched together, or nobody waits. -/
def KeepsOrder (service : Service τ) (pace : Pace) : Prop :=
  service.settings.concurrent = true → pace = fun _ _ => 0

theorem IsUnaided.resolveAt {service : Service τ} (unaided : service.IsUnaided) {together : Bool}
    (pace : Pace) (ordered : together = false → service.KeepsOrder pace) (document : Text)
    (values : List (Text × Value)) :
    Dispatcher.RunsAgree (MarkerTrace.Agree together) Session.withoutModel Session.IsUseless
      (service.resolveAt pace document values)
      (service.dispatcher.resolve service.settings.maxIterations document values
        service.session.withoutModel ()) := by
  cases together with
  | true =>
    unfold Service.resolveAt
    split
    next => exact Dispatcher.runTogether_agree unaided.waitsUnseen pace _ _ unaided.useless () ()
    next => exact unaided.resolve document values
  | false =>
    rw [resolveAt_eq_resolve unaided.registry (ordered rfl)]
    exact unaided.resolve document values

structure Agree (together : Bool) (service other : Service τ) : Prop where
  unaided : service.IsUnaided
  otherUnaided : other.IsUnaided
  settings : service.settings = other.settings
  session : service.session.withoutModel = other.session.withoutModel
  store : RecordStore.Agree together service.store other.store

namespace Agree

variable {together : Bool} {service other : Service τ}

theorem recorded (agree : Agree together service other) (document : Text)
    {run run' plain : Run (Session τ) Unit τ}
    (comesTo : Dispatcher.RunsAgree (MarkerTrace.Agree together) Session.withoutModel
      Session.IsUseless run plain)
    (comesTo' : Dispatcher.RunsAgree (MarkerTrace.Agree together) Session.withoutModel
      Session.IsUseless run' plain) :
    Outcome.Agree together (service.recorded document run).1 (other.recorded document run').1 ∧
      Agree together (service.recorded document run).2 (other.recorded document run').2 := by
  have text := comesTo.text.trans comesTo'.text.symm
  have iterations := comesTo.iterations.trans comesTo'.iterations.symm
  have endState := comesTo.endState.trans comesTo'.endState.symm
  have traces := comesTo.traces.of_common comesTo'.traces
  have state := comesTo.state.trans comesTo'.state.symm
  have start : service.session.world.clock = other.session.world.clock :=
    congrArg (fun s => s.world.clock) agree.session
  have stop : run.state.world.clock = run'.state.world.clock :=
    congrArg (fun s => s.world.clock) state
  have today : run.state.world.today = run'.state.world.today :=
    congrArg (fun s => s.world.today) state
  obtain ⟨ids, stores⟩ := agree.store.create run.state.world.today
    { document
      output := run.text
      iterations := run.iterations
      endState := run.endState.label
      traces := run.traces
      latency := Quantity.elapsed service.session.world.clock run.state.world.clock } traces
  have after (store store' : RecordStore τ)
      (stores : RecordStore.Agree together store store') :
      Agree together { service with session := run.state, store }
        { other with session := run'.state, store := store' } :=
    ⟨⟨agree.unaided.registry, comesTo.known⟩, ⟨agree.otherUnaided.registry, comesTo'.known⟩,
      agree.settings, state, stores⟩
  simp only [Service.recorded, ← text, ← iterations, ← endState, ← start, ← stop, ← today]
  generalize service.store.create _ _ = made at ids stores ⊢
  generalize other.store.create _ _ = made' at ids stores ⊢
  obtain ⟨kept, store⟩ := made
  obtain ⟨kept', store'⟩ := made'
  cases kept with
  | ok record =>
    cases kept' with
    | ok record' =>
      have id : record.id = record'.id := Except.ok.inj ids
      dsimp only
      rw [← id]
      exact ⟨.resolved ⟨run.text, run.iterations, run.endState, run.traces, some record.id⟩ traces,
        after store store' stores⟩
    | error failure => cases ids
  | error failure =>
    cases kept' with
    | ok record => cases ids
    | error failure' =>
      obtain rfl : failure = failure' := Except.error.inj ids
      cases failure <;> exact ⟨.failed _, after store store' stores⟩

theorem perform (agree : Agree together service other) (pace pace' : Pace)
    (ordered : together = false → service.KeepsOrder pace ∧ service.KeepsOrder pace')
    (action : Action τ) :
    List.Forall₂ (Outcome.Agree together) (service.perform pace action).1.toList
        (other.perform pace' action).1.toList ∧
      Agree together (service.perform pace action).2 (other.perform pace' action).2 := by
  cases action with
  | process document values =>
    have dispatcher : service.dispatcher = other.dispatcher := by
      simp only [Service.dispatcher, agree.unaided.registry, agree.otherUnaided.registry,
        agree.settings]
    have run := agree.unaided.resolveAt pace (fun apart => (ordered apart).1) document values
    have run' := agree.otherUnaided.resolveAt pace'
      (fun apart => by simpa [KeepsOrder, agree.settings] using (ordered apart).2) document values
    rw [← dispatcher, ← agree.settings, ← agree.session] at run'
    obtain ⟨outcomes, services⟩ := agree.recorded document run run'
    exact ⟨.cons outcomes .nil, services⟩
  | clearCache =>
    refine ⟨.nil, ⟨agree.unaided.registry, agree.unaided.useless⟩,
      ⟨agree.otherUnaided.registry, agree.otherUnaided.useless⟩, agree.settings, ?_, agree.store⟩
    exact congrArg Lookup.clearCache agree.session
  | wait seconds =>
    refine ⟨.nil, ⟨agree.unaided.registry, agree.unaided.useless.withWorld rfl rfl rfl⟩,
      ⟨agree.otherUnaided.registry, agree.otherUnaided.useless.withWorld rfl rfl rfl⟩,
      agree.settings, ?_, agree.store⟩
    exact congrArg (fun s => { s with world := s.world.wait seconds }) agree.session

theorem performAll (agree : Agree together service other) (paces paces' : Nat → Pace)
    (ordered : together = false → ∀ index,
      service.KeepsOrder (paces index) ∧ service.KeepsOrder (paces' index))
    (actions : List (Action τ)) :
    List.Forall₂ (Outcome.Agree together) (Service.performAll paces actions service).1
        (Service.performAll paces' actions other).1 ∧
      Agree together (Service.performAll paces actions service).2
        (Service.performAll paces' actions other).2 := by
  induction actions generalizing service other with
  | nil => exact ⟨.nil, agree⟩
  | cons action rest ih =>
    obtain ⟨outcome, next⟩ := agree.perform (paces rest.length) (paces' rest.length)
      (fun apart => ordered apart rest.length) action
    obtain ⟨outcomes, last⟩ := ih next fun apart index => by
      simpa only [KeepsOrder, perform_settings] using ordered apart index
    exact ⟨List.rel_append outcome outcomes, last⟩

end Agree

def asking : List (Action Rat) :=
  [.process "\x7b\x7bai_describe:Cats\x7d\x7d, \x7b\x7bai_link:Cats\x7d\x7d".toList [],
    .wait 90, .clearCache,
    .process "\x7b\x7bai_answer:\x7b\x7bai_fact:Cats\x7d\x7d\x7d\x7d".toList []]

end Service

end DocMarkers
