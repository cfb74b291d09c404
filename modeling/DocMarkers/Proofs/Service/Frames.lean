import DocMarkers.Proofs.Scanning.Frames
import DocMarkers.Proofs.Service.Records

set_option autoImplicit false

namespace DocMarkers

namespace Dispatcher

variable {σ ω τ : Type} [Quantity τ] (d : Dispatcher σ ω τ)

def alone (begun : Begun τ) (result : Except Raised Value) (state : σ) (watch : ω) : Round σ ω τ :=
  let (reply, trace) := conclude begun (d.clock state) result
  ⟨[(begun.marker, reply)], [trace], state, watch⟩

variable {d} {text : Text} {marker : Marker} (only : Document.markers text = [marker])
  {spec : MarkerSpec σ} (found : d.registry.find? marker.name = some spec)
  {result : Except Raised Value} {state next : σ}
include only found

theorem round_alone (unobserved : d.observer = none)
    (answer : spec.handler (spec.splitMode.split marker.params) state = (result, next))
    (watch : ω) :
    d.round text state watch =
      d.alone ⟨marker, spec.splitMode.split marker.params, d.clock state⟩ result next watch := by
  simp only [round, only, distinct, List.filter_nil, resolveAll,
    resolveOne_of_unobserved unobserved marker state watch found answer]
  rfl

-- The second of the two steps finds nothing to do.
theorem roundTogether_alone {beginnings : Beginnings σ}
    (begins : beginnings spec (spec.splitMode.split marker.params) state = (.done result, next))
    (choices : Nat → Nat) (watch : ω) :
    d.roundTogether beginnings choices text state watch =
      d.alone ⟨marker, spec.splitMode.split marker.params, d.clock state⟩ result next watch := by
  have begun : d.step beginnings (choices 1) { unbegun := [marker], state } =
      d.enter { unbegun := [], state } ⟨marker, spec.splitMode.split marker.params, d.clock state⟩
        result next := by
    simp only [step, List.getElem?_nil, begin, found, begins]
  simp only [roundTogether, gather, only, distinct, List.filter_nil, List.length_singleton, advance,
    begun]
  rfl

end Dispatcher

theorem runBy_framed {σ ω τ : Type} {round : Nat → Text → σ → ω → Round σ ω τ} {name : MarkerName}
    {content : Text} (inside : Marker.IsEnclosable content) {trace : MarkerTrace τ} {state : σ}
    {watch : ω}
    (unframes : ∀ left depth, round left (Document.framed name content (depth + 1)) state watch =
      ⟨[(⟨name.1, some content⟩, content)], [trace], state, watch⟩) (limit depth : Nat) :
    runBy round limit (Document.framed name content depth) state watch =
      { text := Document.framed name content (depth - limit)
        iterations := min depth limit
        endState := if depth ≤ limit then .fixpoint else .capped
        traces := List.replicate (min depth limit) trace
        state, watch } := by
  induction depth generalizing limit with
  | zero =>
    rw [Document.framed, runBy_of_fixpoint round (Document.markers_of_unopened inside.1)]
    simp [Document.framed]
  | succ depth ih =>
    have only := Document.markers_framed name depth inside
    have unresolved : Document.markers (Document.framed name content (depth + 1)) ≠ [] := by
      simp [only]
    cases limit with
    | zero =>
      rw [runBy_zero round unresolved]
      rfl
    | succ left =>
      have unframed : (round left (Document.framed name content (depth + 1)) state watch).apply
          (Document.framed name content (depth + 1)) = Document.framed name content depth := by
        rw [unframes, Round.apply]
        exact Document.replace_framed name depth inside List.lookup_cons_self
      simp only [runBy_succ round unresolved, unframed]
      simp only [unframes, ih, Nat.add_min_add_right, List.replicate_succ, List.singleton_append,
        Nat.add_sub_add_right, Nat.add_le_add_iff_right]

-- What is registered later does not take the place of what is there.
theorem Registry.find?_of_prefix {σ : Type} {specs : List (MarkerSpec σ)} {registry : Registry σ}
    (there : specs <+: registry.specs) {name : Text} {spec : MarkerSpec σ}
    (found : Registry.find? ⟨specs⟩ name = some spec) : registry.find? name = some spec := by
  obtain ⟨others, all⟩ := there
  rw [find?] at found
  rw [find?, ← all, List.find?_append, found, Option.some_or]

namespace Builtin

variable {τ : Type} [Quantity τ]

def frameName : MarkerName := ⟨"ai_complete".toList, rfl⟩

omit [Quantity τ] in
theorem complete_whole (content : Text) (s : Session τ) :
    complete (SplitMode.whole.split (some content)) s = (.ok (.text content), s) := by
  cases content <;> rfl

theorem exists_frame {registry : Registry (Session τ)} {searches : Bool}
    (builtIn : specs searches <+: registry.specs) :
    ∃ spec, registry.find? frameName.1 = some spec ∧ spec.splitMode = .whole ∧
      spec.handler = (fun arguments => telling (complete arguments)) ∧
        beginnings searches spec = fun arguments => doAtOnce (telling (complete arguments)) :=
  ⟨_, Registry.find?_of_prefix builtIn rfl, rfl, rfl, rfl⟩

def frameTrace (content : Text) (now : τ) : MarkerTrace τ where
  name := frameName.1
  params := SplitMode.whole.split (some content)
  outputPreview := preview content
  latency := Quantity.elapsed now now
  status := .ok

end Builtin

namespace Service

open Builtin (frameName frameTrace)

variable {τ : Type} [Quantity τ]

theorem recorded_session (service : Service τ) (document : Text) (run : Run (Session τ) Unit τ) :
    (service.recorded document run).2.session = run.state := by
  unfold recorded
  dsimp only
  split <;> rfl

variable {service : Service τ}

-- Where both ways of dispatching come to one run, the service comes to it at every pace.
theorem resolveAt_of_runBy {pace : Pace} {document : Text} {run : Run (Session τ) Unit τ}
    (inTurn : runBy (fun _ => service.dispatcher.round) service.settings.maxIterations document
      service.session () = run)
    (together : runBy
      (fun left => service.dispatcher.roundTogether
        (Builtin.beginnings service.settings.searchFallback) (pace left))
      service.settings.maxIterations document service.session () = run) :
    service.resolveAt pace document [] = run := by
  unfold resolveAt
  split
  next => exact (Dispatcher.runTogether_eq_runBy _ _ _ _ _ _ _).trans together
  next => exact (Dispatcher.run_eq_runBy _ _ _ _ _).trans inTurn

variable (builtIn : Builtin.specs service.settings.searchFallback <+: service.registry.specs)
  {content : Text} (inside : Marker.IsEnclosable content)
include builtIn inside

theorem round_framed (depth : Nat) (s : Session τ) (watch : Unit) :
    service.dispatcher.round (Document.framed frameName content (depth + 1)) s watch =
      ⟨[(⟨frameName.1, some content⟩, content)], [frameTrace content s.world.clock], s, watch⟩ := by
  obtain ⟨spec, found, whole, handler, -⟩ := Builtin.exists_frame builtIn
  have answer : spec.handler (spec.splitMode.split (some content)) s =
      (.ok (.text content), s) := by
    simp only [handler, whole, telling, Builtin.complete_whole, Except.mapError]
  rw [Dispatcher.round_alone (Document.markers_framed frameName depth inside) found rfl answer,
    whole]
  rfl

theorem roundTogether_framed (choices : Nat → Nat) (depth : Nat) (s : Session τ) (watch : Unit) :
    service.dispatcher.roundTogether (Builtin.beginnings service.settings.searchFallback) choices
        (Document.framed frameName content (depth + 1)) s watch =
      ⟨[(⟨frameName.1, some content⟩, content)], [frameTrace content s.world.clock], s, watch⟩ := by
  obtain ⟨spec, found, whole, -, begins⟩ := Builtin.exists_frame builtIn
  have begins : Builtin.beginnings service.settings.searchFallback spec
      (spec.splitMode.split (some content)) s = (.done (.ok (.text content)), s) := by
    simp only [begins, whole, Builtin.doAtOnce, telling, Builtin.complete_whole, Except.mapError]
  rw [Dispatcher.roundTogether_alone (Document.markers_framed frameName depth inside) found begins,
    whole]
  rfl

def unframed (service : Service τ) (content : Text) (depth : Nat) : Run (Session τ) Unit τ where
  text := Document.framed frameName content (depth - service.settings.maxIterations)
  iterations := min depth service.settings.maxIterations
  endState := if depth ≤ service.settings.maxIterations then .fixpoint else .capped
  traces := List.replicate (min depth service.settings.maxIterations)
    (frameTrace content service.session.world.clock)
  state := service.session
  watch := ()

theorem resolveAt_framed (pace : Pace) (depth : Nat) :
    service.resolveAt pace (Document.framed frameName content depth) [] =
      service.unframed content depth := by
  refine resolveAt_of_runBy ?_ ?_
  · exact runBy_framed inside (fun _ depth => round_framed builtIn inside depth _ _) _ depth
  · exact runBy_framed inside
      (fun left depth => roundTogether_framed builtIn inside (pace left) depth _ _) _ depth

/-- The text in the frames is given back exactly, with an iteration for each of them, or stays in those that
the iterations do not suffice for. All that is taken away is reported as such. The session is as it was, so
nothing has been asked of the world. -/
theorem framed_given_back (pace : Pace) (depth : Nat) :
    let document := Document.framed frameName content depth
    let run := service.resolveAt pace document []
    let processed := service.processAt pace document []
    (depth ≤ service.settings.maxIterations →
        run.text = content ∧ run.iterations = depth ∧ run.endState = .fixpoint) ∧
      (service.settings.maxIterations < depth →
        run.text = Document.framed frameName content (depth - service.settings.maxIterations) ∧
          run.iterations = service.settings.maxIterations ∧ run.endState = .capped) ∧
      (run.traces.length = run.iterations ∧ ∀ trace ∈ run.traces, trace.status = .ok) ∧
      processed.2.session = service.session ∧
      (service.store.window.CanKeep → ∃ id, processed.1 = .ok (run.outcome id)) ∧
      processed = service.process document [] := by
  intro document run processed
  have settled : run = service.unframed content depth :=
    resolveAt_framed builtIn inside pace depth
  have inTurn : processed = service.process document [] :=
    congrArg (service.recorded document)
      (settled.trans (resolveAt_framed builtIn inside (fun _ _ => 0) depth).symm)
  have kept : (service.recorded document run).2.session = run.state := recorded_session _ _ _
  refine ⟨fun within => ?_, fun beyond => ?_, ?_, ?_, fun canKeep => ?_, inTurn⟩
  · rw [settled, unframed, Nat.sub_eq_zero_of_le within, Nat.min_eq_left within, if_pos within]
    exact ⟨rfl, rfl, rfl⟩
  · rw [settled, unframed, Nat.min_eq_right beyond.le, if_neg (Nat.not_le.2 beyond)]
    exact ⟨rfl, rfl, rfl⟩
  · rw [settled]
    refine ⟨List.length_replicate, fun trace told => ?_⟩
    rw [List.eq_of_mem_replicate told]
    rfl
  · exact kept.trans (congrArg Run.state settled)
  · obtain ⟨id, records, recorded⟩ := recorded_of_canKeep canKeep document run
    exact ⟨id, congrArg Prod.fst recorded⟩

omit builtIn inside in
-- Single braces stand at both ends of what is framed, and one frame more than there are iterations stays.
theorem framed_given_back_with_braces :
    let service : Service Rat := create unhelpful patient {}
    let content := "\x7ba: \x7d b\n".toList
    let once := Document.framed frameName content 1
    (Builtin.specs false <+: service.registry.specs ∧ Marker.IsEnclosable content ∧
        service.store.window.CanKeep) ∧
      once = "\x7b\x7bai_complete:\x7ba: \x7d b\n\x7d\x7d".toList ∧
      (∃ outcome, (service.process once []).1 = .ok outcome ∧ outcome.text = content ∧
        outcome.endState = .fixpoint) ∧
      ∃ outcome, (service.process (Document.framed frameName content 4) []).1 = .ok outcome ∧
        outcome.text = once ∧ outcome.iterations = 3 ∧ outcome.endState = .capped := by
  intro service content once
  have valid : Marker.IsValid ⟨frameName.1, some content⟩ := by decide
  have inside : Marker.IsEnclosable content := valid.params _ rfl
  have canKeep : service.store.window.CanKeep := by
    change (0 : Int) ≤ 1000
    decide
  have builtIn : Builtin.specs service.settings.searchFallback <+: service.registry.specs :=
    List.prefix_rfl
  obtain ⟨whole, -, -, -, told, plain⟩ := framed_given_back builtIn inside (fun _ _ => 0) 1
  obtain ⟨-, capped, -, -, toldFour, plainFour⟩ :=
    framed_given_back builtIn inside (fun _ _ => 0) 4
  obtain ⟨text, -, fixpoint⟩ := whole (by decide)
  obtain ⟨textFour, used, unresolved⟩ := capped (by decide)
  obtain ⟨id, answered⟩ := told canKeep
  obtain ⟨idFour, answeredFour⟩ := toldFour canKeep
  rw [plain] at answered
  rw [plainFour] at answeredFour
  refine ⟨⟨builtIn, inside, canKeep⟩, rfl, ⟨_, answered, ?_⟩, ⟨_, answeredFour, ?_⟩⟩
  · simp only [Run.outcome]
    exact ⟨text, fixpoint⟩
  · simp only [Run.outcome]
    exact ⟨textFour, used, unresolved⟩

end Service

end DocMarkers
