import DocMarkers.Proofs.Resolution.Reports

set_option autoImplicit false

namespace DocMarkers

variable {σ ω τ : Type}

def MarkerSpec.unnoted (spec : MarkerSpec (σ × List HandlerCall)) : MarkerSpec σ :=
  { spec with
    handler := fun arguments state =>
      let (result, state, _) := spec.handler arguments (state, [])
      (result, state) }

def Beginning.noting (name : Text) (arguments : List Text) (beginning : Beginning σ) :
    Beginning (σ × List HandlerCall) := fun (state, calls) =>
  match beginning state with
  | (.done result, state) => (.done result, state, calls ++ [⟨name, arguments, result⟩])
  | (.waits rest, state) => (.waits (Handler.noting name (fun _ => rest) arguments), state, calls)

def Beginnings.noting (beginnings : Beginnings σ) : Beginnings (σ × List HandlerCall) :=
  fun spec arguments => Beginning.noting spec.name arguments (beginnings spec.unnoted arguments)

theorem Beginnings.noting_noting (beginnings : Beginnings σ) (spec : MarkerSpec σ)
    (arguments : List Text) :
    beginnings.noting spec.noting arguments =
      Beginning.noting spec.name arguments (beginnings spec arguments) := rfl

def Pending.noting (pending : Pending σ τ) : Pending (σ × List HandlerCall) τ where
  toBegun := pending.toBegun
  rest := Handler.noting pending.marker.name (fun _ => pending.rest) pending.params

namespace Gathering

def noting (g : Gathering σ τ) (calls : List HandlerCall) : Gathering (σ × List HandlerCall) τ where
  unbegun := g.unbegun
  pending := g.pending.map Pending.noting
  replies := g.replies
  traces := g.traces
  state := (g.state, calls)

structure Reported (registry : Registry σ) (g : Gathering σ τ) (reports : List (Report τ)) :
    Prop where
  tells : ∀ report ∈ reports, report.Tells registry
  replies : g.replies = reports.map Report.entry
  traces : g.traces = reports.map Report.trace
  waiting : ∀ pending ∈ g.pending, ∃ spec, registry.find? pending.marker.name = some spec ∧
    pending.params = spec.splitMode.split pending.marker.params

def Adds (registry : Registry σ) (reports : List (Report τ)) (calls : List HandlerCall)
    (g : Gathering σ τ) (noted : Gathering (σ × List HandlerCall) τ) : Prop :=
  ∃ more, g.Reported registry (reports ++ more) ∧
    noted = g.noting (calls ++ more.filterMap Report.call)

theorem Reported.enter {registry : Registry σ} {g : Gathering σ τ} {reports : List (Report τ)}
    (reported : g.Reported registry reports) {report : Report τ} (tells : report.Tells registry)
    (state : σ) :
    ({ g with
      replies := g.replies ++ [report.entry], traces := g.traces ++ [report.trace]
      state } : Gathering σ τ).Reported registry (reports ++ [report]) where
  tells := List.forall_mem_append.2 ⟨reported.tells, List.forall_mem_singleton.2 tells⟩
  replies := by rw [List.map_append, ← reported.replies, List.map_singleton]
  traces := by rw [List.map_append, ← reported.traces, List.map_singleton]
  waiting := reported.waiting

theorem Reported.wait {registry : Registry σ} {g : Gathering σ τ} {reports : List (Report τ)}
    (reported : g.Reported registry reports) {marker : Marker} {spec : MarkerSpec σ}
    (found : registry.find? marker.name = some spec) (start : τ)
    (rest : σ → Except Raised Value × σ) (state : σ) :
    ({ g with
      pending := g.pending ++ [⟨⟨marker, spec.splitMode.split marker.params, start⟩, rest⟩]
      state } : Gathering σ τ).Reported registry reports where
  tells := reported.tells
  replies := reported.replies
  traces := reported.traces
  waiting := List.forall_mem_append.2 ⟨reported.waiting,
    List.forall_mem_singleton.2 ⟨spec, found, rfl⟩⟩

theorem Reported.adds {registry : Registry σ} {g : Gathering σ τ} {reports : List (Report τ)}
    (reported : g.Reported registry reports) (calls : List HandlerCall) :
    Adds registry reports calls g (g.noting calls) :=
  ⟨[], by rwa [List.append_nil], by rw [List.filterMap_nil, List.append_nil]⟩

end Gathering

namespace Dispatcher

variable [Quantity τ] {d : Dispatcher σ ω τ} {g : Gathering σ τ} {reports : List (Report τ)}

open Gathering (Reported Adds)

theorem enter_reported (reported : g.Reported d.registry reports) (calls : List HandlerCall)
    {begun : Begun τ} {spec : MarkerSpec σ}
    (found : d.registry.find? begun.marker.name = some spec)
    (params : begun.params = spec.splitMode.split begun.marker.params)
    (result : Except Raised Value) (state : σ) :
    Adds d.registry reports calls (d.enter g begun result state)
      (d.noting.enter (g.noting calls) begun result
        (state, calls ++ [⟨begun.marker.name, begun.params, result⟩])) := by
  rcases begun with ⟨marker, _, start⟩
  dsimp only at params
  subst params
  exact ⟨[_], reported.enter (Report.tells_ofCall found start (d.clock state) result) state, rfl⟩

theorem goOn_reported (reported : g.Reported d.registry reports) (calls : List HandlerCall)
    (index : Nat) {pending : Pending σ τ} (here : pending ∈ g.pending) :
    Adds d.registry reports calls (d.goOn g index pending)
      (d.noting.goOn (g.noting calls) index pending.noting) := by
  obtain ⟨spec, found, params⟩ := reported.waiting pending here
  let fewer : Gathering σ τ := { g with pending := g.pending.eraseIdx index }
  have others : fewer.Reported d.registry reports :=
    ⟨reported.tells, reported.replies, reported.traces,
      fun other member => reported.waiting other (List.mem_of_mem_eraseIdx member)⟩
  have erased : ({ g.noting calls with
      pending := (g.noting calls).pending.eraseIdx index } : Gathering (σ × List HandlerCall) τ) =
        fewer.noting calls := by
    simp only [fewer, Gathering.noting, List.eraseIdx_map]
  simp only [goOn, erased]
  exact enter_reported others calls found params _ _

theorem begin_reported (beginnings : Beginnings σ) (reported : g.Reported d.registry reports)
    (calls : List HandlerCall) (marker : Marker) :
    Adds d.registry reports calls (d.begin beginnings g marker)
      (d.noting.begin beginnings.noting (g.noting calls) marker) := by
  cases found : d.registry.find? marker.name with
  | none =>
    have foundNoting : d.noting.registry.find? marker.name = none := by
      rw [noting, Registry.find?_noting, found]
      rfl
    simp only [begin, found, foundNoting]
    refine ⟨[.ofUnknown marker], reported.enter (Report.tells_ofUnknown found) g.state, ?_⟩
    simp [Gathering.noting, Report.ofUnknown]
  | some spec =>
    have foundNoting : d.noting.registry.find? marker.name = some spec.noting := by
      rw [noting, Registry.find?_noting, found]
      rfl
    have named : spec.name = marker.name := by simpa using List.find?_some found
    rcases begins : beginnings spec (spec.splitMode.split marker.params) g.state with
      ⟨result | rest, state⟩
    · have beginsNoting : beginnings.noting spec.noting (spec.noting.splitMode.split marker.params)
          (g.noting calls).state =
            (.done result, state,
              calls ++ [⟨marker.name, spec.splitMode.split marker.params, result⟩]) := by
        rw [Beginnings.noting_noting, named]
        simp only [Beginning.noting, Gathering.noting, MarkerSpec.noting, begins]
      simp only [begin, found, foundNoting, begins, beginsNoting]
      exact enter_reported reported calls found rfl result state
    · have beginsNoting : beginnings.noting spec.noting (spec.noting.splitMode.split marker.params)
          (g.noting calls).state =
            (.waits (Handler.noting marker.name (fun _ => rest)
              (spec.splitMode.split marker.params)), state, calls) := by
        rw [Beginnings.noting_noting, named]
        simp only [Beginning.noting, Gathering.noting, MarkerSpec.noting, begins]
      simp only [begin, found, foundNoting, begins, beginsNoting]
      have waiting := (reported.wait found (d.clock g.state) rest state).adds calls
      simp only [Gathering.noting, List.map_append] at waiting
      exact waiting

theorem step_reported (beginnings : Beginnings σ) (reported : g.Reported d.registry reports)
    (calls : List HandlerCall) (choice : Nat) :
    Adds d.registry reports calls (d.step beginnings choice g)
      (d.noting.step beginnings.noting choice (g.noting calls)) := by
  rcases here : g.pending[choice]? with _ | pending
  · have hereNoting : (g.noting calls).pending[choice]? = none := by
      simp only [Gathering.noting, List.getElem?_map, here, Option.map_none]
    rcases left : g.unbegun with _ | ⟨marker, unbegun⟩
    · have leftNoting : (g.noting calls).unbegun = [] := left
      rcases waiting : g.pending with _ | ⟨pending, others⟩
      · have waitingNoting : (g.noting calls).pending = [] := by
          rw [Gathering.noting, waiting, List.map_nil]
        simp only [step, left, waiting, leftNoting, waitingNoting]
        exact reported.adds calls
      · have waitingNoting : (g.noting calls).pending =
            pending.noting :: others.map Pending.noting := by
          rw [Gathering.noting, waiting, List.map_cons]
        rw [waiting] at here
        rw [waitingNoting] at hereNoting
        simp only [step, here, left, waiting, hereNoting, leftNoting, waitingNoting]
        exact goOn_reported reported calls 0 (waiting ▸ List.mem_cons_self)
    · have leftNoting : (g.noting calls).unbegun = marker :: unbegun := left
      have fewer : ({ g with unbegun } : Gathering σ τ).Reported d.registry reports :=
        ⟨reported.tells, reported.replies, reported.traces, reported.waiting⟩
      simp only [step, here, left, hereNoting, leftNoting]
      exact begin_reported beginnings fewer calls marker
  · have hereNoting : (g.noting calls).pending[choice]? = some pending.noting := by
      simp only [Gathering.noting, List.getElem?_map, here, Option.map_some]
    simp only [step, here, hereNoting]
    exact goOn_reported reported calls choice (List.mem_of_getElem? here)

theorem advance_reported (beginnings : Beginnings σ) (reported : g.Reported d.registry reports)
    (calls : List HandlerCall) (choices : Nat → Nat) (left : Nat) :
    Adds d.registry reports calls (d.advance beginnings choices left g)
      (d.noting.advance beginnings.noting choices left (g.noting calls)) := by
  induction left generalizing g reports calls with
  | zero => exact reported.adds calls
  | succ left ih =>
    obtain ⟨more, here, noted⟩ := step_reported beginnings reported calls (choices left)
    obtain ⟨others, later, noted'⟩ := ih here (calls ++ more.filterMap Report.call)
    refine ⟨more ++ others, by rwa [← List.append_assoc], ?_⟩
    rw [List.filterMap_append, ← List.append_assoc]
    exact (congrArg (d.noting.advance beginnings.noting choices left) noted).trans noted'

theorem roundTogether_reported (d : Dispatcher σ ω τ) (beginnings : Beginnings σ)
    (choices : Nat → Nat) (text : Text) (state : σ) (calls : List HandlerCall) (watch : ω) :
    ∃ reports : List (Report τ), Round.Reported d.registry calls
      (d.roundTogether beginnings choices text state watch)
      (d.noting.roundTogether beginnings.noting choices text (state, calls) watch) reports := by
  let markers := distinct (Document.markers text)
  have start : ({ unbegun := markers, state } : Gathering σ τ).Reported d.registry [] :=
    ⟨nofun, rfl, rfl, nofun⟩
  obtain ⟨reports, reported, noted⟩ :=
    advance_reported beginnings start calls choices (2 * markers.length)
  refine ⟨reports, reported.tells, reported.replies, reported.traces, ?_⟩
  have gathered : d.noting.gather beginnings.noting choices markers (state, calls) =
      (d.gather beginnings choices markers state).noting
        (calls ++ reports.filterMap Report.call) := noted
  rw [roundTogether, gathered]
  rfl

theorem runTogether_eq_runBy (d : Dispatcher σ ω τ) (beginnings : Beginnings σ) (pace : Pace)
    (limit : Nat) (text : Text) (state : σ) (watch : ω) :
    d.runTogether beginnings pace limit text state watch =
      runBy (fun left => d.roundTogether beginnings (pace left)) limit text state watch := by
  induction limit generalizing text state watch with
  | zero => rfl
  | succ left ih => simp only [runTogether, runBy, ih]

end Dispatcher

structure Run.Reported (registry : Registry σ) (run : Run σ ω τ)
    (noted : Run (σ × List HandlerCall) ω τ) (reports : List (Report τ)) : Prop where
  tells : ∀ report ∈ reports, report.Tells registry
  traces : run.traces = reports.map Report.trace
  noted : noted = { run with state := (run.state, reports.filterMap Report.call) }

namespace Dispatcher

variable [Quantity τ] {d : Dispatcher σ ω τ}

theorem resolve_reported (quiet : d.IsQuiet) (limit : Nat) (document : Text)
    (values : List (Text × Value)) (state : σ) (watch : ω) :
    ∃ reports : List (Report τ), Run.Reported d.registry
      (d.resolve limit document values state watch)
      (d.noting.resolve limit document values (state, []) watch) reports := by
  obtain ⟨iterations, -, -, tells, traces, noted⟩ := runBy_noting (fun _ => d.round)
    (fun _ => d.noting.round) (fun _ => round_noting quiet) limit
    (Document.substitute document (values.map fun entry => (entry.1, entry.2.render))) state [] watch
  simp only [← run_eq_runBy] at traces noted
  exact ⟨iterations.flatten, tells, traces, noted⟩

theorem resolveTogether_reported (d : Dispatcher σ ω τ) (beginnings : Beginnings σ) (pace : Pace)
    (limit : Nat) (document : Text) (values : List (Text × Value)) (state : σ) (watch : ω) :
    ∃ reports : List (Report τ), Run.Reported d.registry
      (d.resolveTogether beginnings pace limit document values state watch)
      (d.noting.resolveTogether beginnings.noting pace limit document values (state, []) watch)
      reports := by
  have reported (left : Nat) (text : Text) (state : σ) (calls : List HandlerCall) (watch : ω) :
      ∃ reports : List (Report τ), True ∧ Round.Reported d.registry calls
        (d.roundTogether beginnings (pace left) text state watch)
        (d.noting.roundTogether beginnings.noting (pace left) text (state, calls) watch) reports :=
    let ⟨reports, reported⟩ := d.roundTogether_reported beginnings (pace left) text state calls watch
    ⟨reports, trivial, reported⟩
  obtain ⟨iterations, -, -, tells, traces, noted⟩ := runBy_noting
    (fun left => d.roundTogether beginnings (pace left))
    (fun left => d.noting.roundTogether beginnings.noting (pace left)) reported limit
    (Document.substitute document (values.map fun entry => (entry.1, entry.2.render))) state [] watch
  simp only [resolveTogether, runTogether_eq_runBy]
  exact ⟨iterations.flatten, tells, traces, noted⟩

end Dispatcher

end DocMarkers
