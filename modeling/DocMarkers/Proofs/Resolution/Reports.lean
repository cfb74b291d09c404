import DocMarkers.Proofs.Resolution.Interleaved

set_option autoImplicit false

namespace DocMarkers

variable {σ ω τ : Type}

structure HandlerCall where
  name : Text
  arguments : List Text
  result : Except Raised Value

def Handler.noting (name : Text) (handler : Handler σ) : Handler (σ × List HandlerCall) :=
  fun arguments (state, calls) =>
    let (result, state) := handler arguments state
    (result, state, calls ++ [⟨name, arguments, result⟩])

def MarkerSpec.noting (spec : MarkerSpec σ) : MarkerSpec (σ × List HandlerCall) :=
  { spec with handler := Handler.noting spec.name spec.handler }

def Registry.noting (registry : Registry σ) : Registry (σ × List HandlerCall) :=
  ⟨registry.specs.map MarkerSpec.noting⟩

def Dispatcher.noting (d : Dispatcher σ ω τ) : Dispatcher (σ × List HandlerCall) ω τ where
  registry := d.registry.noting
  clock state := d.clock state.1
  observer := d.observer

theorem Registry.find?_noting (registry : Registry σ) (name : Text) :
    registry.noting.find? name = (registry.find? name).map MarkerSpec.noting := by
  simp only [find?, noting, List.find?_map]
  rfl

/-- What became of a marker: how its handler was called, if it has one, which text took its place, and
what was traced. -/
structure Report (τ : Type) where
  marker : Marker
  call : Option HandlerCall
  reply : Text
  trace : MarkerTrace τ

namespace Report

def entry (report : Report τ) : Marker × Text := (report.marker, report.reply)

inductive Tells (registry : Registry σ) : Report τ → Prop
  | unknown {marker : Marker} (unknown : registry.find? marker.name = none) (told : Text)
      (latency : τ) :
    Tells registry
      { marker, call := none, reply := marker.literal
        trace := ⟨marker.name, [], told, latency, .unknown⟩ }
  | failed {marker : Marker} {spec : MarkerSpec σ} (found : registry.find? marker.name = some spec)
      (raised : Raised) (latency : τ) :
    Tells registry
      { marker, call := some ⟨marker.name, spec.splitMode.split marker.params, .error raised⟩
        reply := marker.literal
        trace := ⟨marker.name, spec.splitMode.split marker.params, [], latency, .error⟩ }
  | succeeded {marker : Marker} {spec : MarkerSpec σ}
      (found : registry.find? marker.name = some spec) (value : Value) (latency : τ) :
    Tells registry
      { marker, call := some ⟨marker.name, spec.splitMode.split marker.params, .ok value⟩
        reply := value.render
        trace := ⟨marker.name, spec.splitMode.split marker.params, value.render.take 320, latency,
          .ok⟩ }

variable [Quantity τ]

def ofUnknown (marker : Marker) : Report τ :=
  ⟨marker, none, marker.literal, Dispatcher.unknownTrace marker⟩

def ofCall (begun : Begun τ) (stop : τ) (result : Except Raised Value) : Report τ :=
  { marker := begun.marker
    call := some ⟨begun.marker.name, begun.params, result⟩
    reply := (Dispatcher.conclude begun stop result).1
    trace := (Dispatcher.conclude begun stop result).2 }

theorem tells_ofUnknown {registry : Registry σ} {marker : Marker}
    (unknown : registry.find? marker.name = none) : Tells registry (ofUnknown (τ := τ) marker) :=
  .unknown unknown _ _

theorem tells_ofCall {registry : Registry σ} {marker : Marker} {spec : MarkerSpec σ}
    (found : registry.find? marker.name = some spec) (start stop : τ)
    (result : Except Raised Value) :
    Tells registry (ofCall ⟨marker, spec.splitMode.split marker.params, start⟩ stop result) := by
  cases result with
  | ok value => exact .succeeded found value _
  | error raised => exact .failed found raised _

end Report

structure Round.Reported (registry : Registry σ) (calls : List HandlerCall) (round : Round σ ω τ)
    (noted : Round (σ × List HandlerCall) ω τ) (reports : List (Report τ)) : Prop where
  tells : ∀ report ∈ reports, report.Tells registry
  replies : round.replies = reports.map Report.entry
  traces : round.traces = reports.map Report.trace
  noted : noted =
    { round with state := (round.state, calls ++ reports.filterMap Report.call) }

namespace Dispatcher

variable [Quantity τ] {d : Dispatcher σ ω τ}

theorem resolveOne_noting (quiet : d.IsQuiet) (marker : Marker) (state : σ)
    (calls : List HandlerCall) (watch : ω) :
    let plain := d.resolveOne marker state watch
    ∃ report : Report τ, report.Tells d.registry ∧ report.marker = marker ∧
      plain.1 = (report.reply, some report.trace) ∧
      d.noting.resolveOne marker (state, calls) watch =
        (plain.1, (plain.2.1, calls ++ report.call.toList), plain.2.2) := by
  intro plain
  cases found : d.registry.find? marker.name with
  | none =>
    have foundNoting : d.noting.registry.find? marker.name = none := by
      rw [noting, Registry.find?_noting, found]
      rfl
    refine ⟨.ofUnknown marker, Report.tells_ofUnknown found, rfl, ?_, ?_⟩
    · rw [show plain = _ from resolveOne_of_unknown found state watch]
      rfl
    · rw [show plain = _ from resolveOne_of_unknown found state watch,
        resolveOne_of_unknown foundNoting]
      simp [Report.ofUnknown]
  | some spec =>
    have foundNoting : d.noting.registry.find? marker.name = some spec.noting := by
      rw [noting, Registry.find?_noting, found]
      rfl
    have named : spec.name = marker.name := by simpa using List.find?_some found
    rcases given : spec.handler (spec.splitMode.split marker.params) state with ⟨result, next⟩
    have givenNoting : spec.noting.handler (spec.noting.splitMode.split marker.params)
        (state, calls) =
          (result, next, calls ++ [⟨marker.name, spec.splitMode.split marker.params, result⟩]) := by
      simp only [MarkerSpec.noting, Handler.noting, given, named]
    refine ⟨.ofCall ⟨marker, spec.splitMode.split marker.params, d.clock state⟩ (d.clock next) result,
      Report.tells_ofCall found _ _ _, rfl, ?_, ?_⟩
    · rw [show plain = _ from resolveOne_of_known found given watch]
      exact settle_of_quiet quiet _ _ _ _
    · rw [show plain = _ from resolveOne_of_known found given watch,
        resolveOne_of_known foundNoting givenNoting]
      rfl

theorem resolveAll_noting (quiet : d.IsQuiet) (markers : List Marker) (state : σ)
    (calls : List HandlerCall) (watch : ω) :
    ∃ reports : List (Report τ), reports.map Report.marker = markers ∧
      Round.Reported d.registry calls (d.resolveAll markers state watch)
        (d.noting.resolveAll markers (state, calls) watch) reports := by
  induction markers generalizing state calls watch with
  | nil => exact ⟨[], rfl, nofun, rfl, rfl, by simp [resolveAll]⟩
  | cons marker rest ih =>
    obtain ⟨report, tells, rfl, here, noted⟩ := resolveOne_noting quiet marker state calls watch
    rcases given : d.resolveOne report.marker state watch with ⟨answer, next, after⟩
    rw [given] at here noted
    obtain rfl : answer = _ := here
    obtain ⟨reports, rfl, others⟩ := ih next (calls ++ report.call.toList) after
    refine ⟨report :: reports, rfl, List.forall_mem_cons.2 ⟨tells, others.tells⟩, ?_, ?_, ?_⟩
    · simp only [resolveAll, given, others.replies, List.map_cons, Report.entry]
    · simp only [resolveAll, given, others.traces, List.map_cons, Option.toList_some,
        List.singleton_append]
    · simp only [resolveAll, given, noted, others.noted]
      cases called : report.call <;> simp [called]

end Dispatcher

section Iterations

/-- Reports of one iteration after another. The replies of each make the text of the next. -/
inductive Iterates (covers : Text → List (Report τ) → Prop) :
    Text → List (List (Report τ)) → Text → Prop
  | over (text : Text) : Iterates covers text [] text
  | iterate {text last : Text} {reports : List (Report τ)} {rest : List (List (Report τ))}
      (covered : covers text reports)
      (later : Iterates covers
        (Document.replace (fun marker => (reports.map Report.entry).lookup marker) text) rest last) :
    Iterates covers text (reports :: rest) last

theorem runBy_noting {registry : Registry σ} {covers : Text → List (Report τ) → Prop}
    (round : Nat → Text → σ → ω → Round σ ω τ)
    (noted : Nat → Text → σ × List HandlerCall → ω → Round (σ × List HandlerCall) ω τ)
    (reported : ∀ left text state calls watch, ∃ reports : List (Report τ), covers text reports ∧
      Round.Reported registry calls (round left text state watch)
        (noted left text (state, calls) watch) reports)
    (limit : Nat) (text : Text) (state : σ) (calls : List HandlerCall) (watch : ω) :
    let run := runBy round limit text state watch
    ∃ iterations : List (List (Report τ)), iterations.length = run.iterations ∧
      Iterates covers text iterations run.text ∧
      (∀ report ∈ iterations.flatten, report.Tells registry) ∧
      run.traces = iterations.flatten.map Report.trace ∧
      runBy noted limit text (state, calls) watch =
        { run with state := (run.state, calls ++ iterations.flatten.filterMap Report.call) } := by
  induction limit generalizing text state calls watch with
  | zero => exact ⟨[], rfl, .over text, nofun, rfl, by simp [runBy]⟩
  | succ left ih =>
    by_cases fixed : Document.markers text = []
    · rw [runBy_of_fixpoint round fixed, runBy_of_fixpoint noted fixed]
      exact ⟨[], rfl, .over text, nofun, rfl, by simp⟩
    · obtain ⟨reports, covered, here⟩ := reported left text state calls watch
      rw [runBy_succ round fixed, runBy_succ noted fixed, here.noted]
      generalize round left text state watch = first at here ⊢
      obtain ⟨rest, length, iterates, tells, traces, later⟩ := ih (first.apply text) first.state
        (calls ++ reports.filterMap Report.call) first.watch
      refine ⟨reports :: rest, congrArg (· + 1) length, .iterate covered ?_, ?_, ?_, ?_⟩
      · rw [← here.replies]
        exact iterates
      · rw [List.flatten_cons]
        exact List.forall_mem_append.2 ⟨here.tells, tells⟩
      · simp only [here.traces, traces, List.flatten_cons, List.map_append]
      · have applied : Round.apply
            { first with state := (first.state, calls ++ reports.filterMap Report.call) } text =
              first.apply text := rfl
        simp only [applied, later, List.flatten_cons, List.filterMap_append, List.append_assoc]

end Iterations

namespace Report

/-- Every marker that stands in a text is reported once, in the order in which the markers first come
there. -/
structure Covers (text : Text) (reports : List (Report τ)) : Prop where
  all : ∀ marker, marker ∈ reports.map Report.marker ↔ marker ∈ Document.markers text
  once : (reports.map fun report => report.marker.literal).Nodup
  inOrder : (reports.map Report.marker).Pairwise fun first second =>
    (Document.markers text).idxOf first < (Document.markers text).idxOf second

theorem covers_distinct {text : Text} {reports : List (Report τ)}
    (given : reports.map Report.marker = distinct (Document.markers text)) :
    Covers text reports where
  all marker := by rw [given, mem_distinct]
  once := by
    have apart : (reports.map Report.marker).Pairwise fun first second =>
        first.literal ≠ second.literal := by
      rw [given]
      refine (nodup_distinct (Document.markers text)).imp_of_mem ?_
      intro first second member member' different same
      exact different (Marker.literal_injective
        (Document.valid_of_mem_markers (mem_distinct.1 member))
        (Document.valid_of_mem_markers (mem_distinct.1 member')) same)
    rw [List.pairwise_map] at apart
    exact List.pairwise_map.2 apart
  inOrder := given ▸ pairwise_distinct (Document.markers text)

theorem calls_eq_traces {registry : Registry σ} {reports : List (Report τ)}
    (tells : ∀ report ∈ reports, report.Tells registry) :
    (reports.filterMap Report.call).map (fun call => (call.name, call.arguments)) =
      ((reports.map Report.trace).filter fun trace => trace.status != .unknown).map
        fun trace => (trace.name, trace.params) := by
  induction reports with
  | nil => rfl
  | cons report rest ih =>
    obtain ⟨first, others⟩ := List.forall_mem_cons.1 tells
    have rest := ih others
    cases first with
    | unknown => simpa using rest
    | failed => simpa using rest
    | succeeded => simpa using rest

end Report

namespace Dispatcher

variable [Quantity τ] {d : Dispatcher σ ω τ}

theorem round_noting (quiet : d.IsQuiet) (text : Text) (state : σ) (calls : List HandlerCall)
    (watch : ω) :
    ∃ reports : List (Report τ), Report.Covers text reports ∧
      Round.Reported d.registry calls (d.round text state watch)
        (d.noting.round text (state, calls) watch) reports := by
  obtain ⟨reports, covered, reported⟩ :=
    resolveAll_noting quiet (distinct (Document.markers text)) state calls watch
  exact ⟨reports, Report.covers_distinct covered, reported⟩

/-- The traces of a run are a full account of it. In each iteration every marker of the text is
dispatched once, in the order of the text, and traced once: without parameters and without a call if
there is no handler, else with the parameters of the call and as the call ended. The calls are those
that handlers note which do the same and note how they are called. -/
theorem traces_complete (quiet : d.IsQuiet) (limit : Nat) (document : Text)
    (values : List (Text × Value)) (state : σ) (watch : ω) :
    let run := d.resolve limit document values state watch
    ∃ (iterations : List (List (Report τ))) (calls : List HandlerCall),
      iterations.length = run.iterations ∧
      Iterates Report.Covers
        (Document.substitute document (values.map fun entry => (entry.1, entry.2.render)))
        iterations run.text ∧
      (∀ report ∈ iterations.flatten, report.Tells d.registry) ∧
      run.traces = iterations.flatten.map Report.trace ∧
      d.noting.resolve limit document values (state, []) watch =
        { run with state := (run.state, calls) } ∧
      calls = iterations.flatten.filterMap Report.call ∧
      calls.map (fun call => (call.name, call.arguments)) =
        (run.traces.filter fun trace => trace.status != .unknown).map
          fun trace => (trace.name, trace.params) := by
  intro run
  obtain ⟨iterations, length, iterates, tells, traces, noted⟩ := runBy_noting
    (fun _ => d.round) (fun _ => d.noting.round) (fun _ => round_noting quiet) limit
    (Document.substitute document (values.map fun entry => (entry.1, entry.2.render))) state [] watch
  simp only [← run_eq_runBy] at length iterates traces noted
  refine ⟨iterations, iterations.flatten.filterMap Report.call, length, iterates, tells, traces,
    noted, rfl, ?_⟩
  rw [show run.traces = _ from traces]
  exact Report.calls_eq_traces tells

-- Fails when it is called first. The observer collects names.
def faltering : Dispatcher Nat (List Text) Number where
  registry :=
    ⟨[{ name := "ai_late".toList
        description := []
        handler := fun arguments calls =>
          (if calls = 0 then .error (.told .wrongKind) else .ok (.text arguments.flatten), calls + 1) }]⟩
  clock calls := .int calls
  observer := some fun trace names => (.ok (), names ++ [trace.name])

-- The marker that stands twice is called once in each of the two iterations.
theorem traces_complete_retried :
    let document := "\x7b\x7bai_late:b\x7d\x7d\x7b\x7bai_c:d\x7d\x7d\x7b\x7bai_late:b\x7d\x7d".toList
    let run := faltering.resolve 2 document [] 0 []
    faltering.IsQuiet ∧
      run.traces.map (fun trace => (trace.status, trace.params)) =
        [(.error, ["b".toList]), (.unknown, []), (.ok, ["b".toList]), (.unknown, [])] ∧
      ∃ calls : List HandlerCall,
        (faltering.noting.resolve 2 document [] (0, []) []).state = (2, calls) ∧
          calls.map (fun call => (call.name, call.arguments)) =
            [("ai_late".toList, ["b".toList]), ("ai_late".toList, ["b".toList])] := by
  intro document run
  have quiet : faltering.IsQuiet := fun _ _ => rfl
  have called : run.state = 2 := by decide +kernel
  obtain ⟨iterations, calls, -, -, -, -, noted, -, told⟩ :=
    traces_complete quiet 2 document [] 0 []
  refine ⟨quiet, by decide +kernel, calls, ?_, told.trans (by decide +kernel)⟩
  rw [noted]
  exact congrArg (·, calls) called

end Dispatcher

end DocMarkers
